/-!
# Punycode

Labels with characters outside ASCII are written in ASCII: first the ASCII
characters, then, in ascending order, where the others have to be inserted,
each distance as a number of variable length whose digits weigh by a bias that
adapts to the distances seen.
-/

namespace PullReview.Text.Punycode

def digit (n : Nat) : Char := Char.ofNat (if n < 26 then 0x61 + n else 0x30 + n - 26)

/-- The weight limit of the `k`-th digit under a bias. -/
def threshold (k bias : Nat) : Nat :=
  if k ≤ bias then 1 else if bias + 26 ≤ k then 26 else k - bias

theorem threshold_bounds (k bias : Nat) : 1 ≤ threshold k bias ∧ threshold k bias ≤ 26 := by
  unfold threshold
  split
  · omega
  · split <;> omega

/-- The digits of a distance. -/
def digits (bias k q : Nat) : List Char :=
  let t := threshold k bias
  if q < t then [digit q]
  else digit (t + (q - t) % (36 - t)) :: digits bias (k + 36) ((q - t) / (36 - t))
termination_by q
decreasing_by
  have h := threshold_bounds k bias
  calc (q - threshold k bias) / (36 - threshold k bias)
      ≤ q - threshold k bias := Nat.div_le_self _ _
    _ < q := by omega

/-- Divides a distance by 35 until it is small, counting in steps of 36. -/
def shrink (delta k : Nat) : Nat × Nat :=
  if 455 < delta then shrink (delta / 35) (k + 36) else (delta, k)
termination_by delta

/-- The bias after a distance, the first one weighing less. -/
def adapt (delta points : Nat) (first : Bool) : Nat :=
  let delta := if first then delta / 700 else delta / 2
  let (delta, k) := shrink (delta + delta / points) 0
  k + 36 * delta / (delta + 38)

structure State where
  out : List Char
  delta : Nat
  bias : Nat
  handled : Nat

/-- Looks at one character of the label while `point` is being inserted. -/
def visit (ascii point : Nat) (s : State) (c : Char) : State :=
  if c.toNat < point then { s with delta := s.delta + 1 }
  else if c.toNat = point then
    { out := s.out ++ digits s.bias 36 s.delta
      delta := 0
      bias := adapt s.delta (s.handled + 1) (s.handled = ascii)
      handled := s.handled + 1 }
  else s

/-- Inserts the code points, given in ascending order. -/
def insertAll (label : List Char) (ascii : Nat) : List Nat → Nat → State → State
  | [], _, s => s
  | point :: rest, from_, s =>
    let s := { s with delta := s.delta + (point - from_) * (s.handled + 1) }
    let s := label.foldl (visit ascii point) s
    insertAll label ascii rest (point + 1) { s with delta := s.delta + 1 }

/-- The ASCII form of a label. -/
def encode (label : List Char) : List Char :=
  let ascii := label.filter (·.toNat < 0x80)
  let others := ((label.map (·.toNat)).filter (0x80 ≤ ·)).mergeSort.eraseReps
  let out := if ascii.isEmpty then [] else ascii ++ ['-']
  (insertAll label ascii.length others 0x80 ⟨out, 0, 72, ascii.length⟩).out

/-- The value of a digit, in either case of letters. -/
def digitValue? (c : Char) : Option Nat :=
  if 'a' ≤ c && c ≤ 'z' then some (c.toNat - 0x61)
  else if 'A' ≤ c && c ≤ 'Z' then some (c.toNat - 0x41)
  else if '0' ≤ c && c ≤ '9' then some (c.toNat - 0x30 + 26)
  else none

/-- Reads the digits of a distance, which weigh `weight` from the `k`-th on, and
adds it up; what follows them comes with it. -/
def distance? (bias : Nat) : List Char → Nat → Nat → Nat → Option (Nat × List Char)
  | [], _, _, _ => none
  | c :: rest, k, weight, sum =>
    match digitValue? c with
    | none => none
    | some d =>
      let t := threshold k bias
      if d < t then some (sum + d * weight, rest)
      else distance? bias rest (k + 36) (weight * (36 - t)) (sum + d * weight)

/-- What to do about digits that write no character. -/
inductive Repair where
  /-- there is no label -/
  | refuse
  /-- keep what has been read, and put a question mark for what is beyond the last character -/
  | keep
  deriving DecidableEq, Repr

/-- Inserts a character for each distance; `index` and `point` are the place and
the code point that the next distance counts from. -/
def insertDistances (repair : Repair) :
    Nat → List Char → List Char → Nat → Nat → Nat → Bool → Option (List Char)
  | 0, _, chars, _, _, _, _ | _ + 1, [], chars, _, _, _, _ => some chars
  | fuel + 1, digits, chars, index, point, bias, first =>
    match distance? bias digits 36 1 0, repair with
    | none, .refuse => none
    | none, .keep => some chars
    | some (delta, rest), repair =>
      let size := chars.length + 1
      let index := index + delta
      let point := point + index / size
      let index := index % size
      let isChar := point ≤ 0x10ffff && !(0xd800 ≤ point && point ≤ 0xdfff)
      if !isChar && repair = .refuse then none
      else
        let point := if 0x10ffff < point then '?'.toNat else point
        let c := if 0xd800 ≤ point && point ≤ 0xdfff then '\ufffd' else Char.ofNat point
        insertDistances repair fuel rest (chars.take index ++ c :: chars.drop index) (index + 1)
          point (adapt delta size first) false

/-- The label behind its ASCII form. -/
def decode (repair : Repair) (label : List Char) : Option (List Char) :=
  let digits := (label.reverse.takeWhile (· ≠ '-')).reverse
  let ascii := label.take (label.length - digits.length - 1)
  insertDistances repair digits.length digits ascii 0 0x80 72 true

end PullReview.Text.Punycode
