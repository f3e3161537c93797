import PullReview.Text.Encoding.DoubleByte

/-!
# Encodings that switch between sets

Here all bytes are those of ASCII. Marks between them say which set of
characters the ones that follow belong to.
-/

namespace PullReview.Text

/-- The character of two bytes that name a row and a place from 33 on. -/
def inLowerRows (g : CharGrid) (a b : Nat) : Option Char :=
  if 0x21 ≤ a && 0x21 ≤ b then g.char? (a - 0x20) (b - 0x21) else none

/-! ## Tildes -/

/-- Reads on; `inRows` says that two bytes make a character. -/
def hzFrom : Nat → Bool → List Nat → List Char
  | 0, _, _ | _, _, [] => []
  | fuel + 1, inRows, a :: rest =>
    let broken : List Char := replacement :: hzFrom fuel inRows rest
    if a = 0x7e then
      match inRows, rest with
      | _, [] => [replacement]
      | false, 0x7e :: more => '~' :: hzFrom fuel inRows more
      | false, 0x0a :: more => hzFrom fuel inRows more
      | false, 0x7b :: more => hzFrom fuel true more
      | true, 0x7d :: more => hzFrom fuel false more
      | _, _ => broken
    else if 0x80 ≤ a then broken
    else match inRows, rest with
      | false, _ => Char.ofNat a :: hzFrom fuel inRows rest
      | true, [] => [replacement]
      | true, b :: more =>
        match inLowerRows gb2312 a b with
        | some c => c :: hzFrom fuel inRows more
        | none => broken

/-- The text of bytes in which tildes switch to the rows of GB 2312 and back. -/
def hzText (bs : List Nat) : String := String.ofList (hzFrom bs.length false bs)

/-! ## Escapes -/

/-- A set that an escape switches to: the letter that names it, how many bytes make a
character and which. -/
structure SwitchedSet where
  letter : Char
  size : Nat
  char? : List Nat → Option Char

/-- Sets of two bytes. -/
def SwitchedSet.ofGrid (letter : Char) (g : CharGrid) : SwitchedSet where
  letter := letter
  size := 2
  char? := fun
    | [a, b] => inLowerRows g a b
    | _ => none

/-- ASCII with other characters in two places. -/
def romanSet : SwitchedSet where
  letter := 'J'
  size := 1
  char? := fun
    | [0x5c] => some '¥'
    | [0x7e] => some '‾'
    | [b] => some (Char.ofNat b)
    | _ => none

/-- The narrow syllables. -/
def syllableSet : SwitchedSet where
  letter := 'I'
  size := 1
  char? := fun
    | [b] => if 0x21 ≤ b && b ≤ 0x5f then narrowSyllable? (b + 0x80) else none
    | _ => none

/-- Sets by the name of the encoding. -/
def switchedSets? (name : String) : Option (List SwitchedSet) :=
  let main := [SwitchedSet.ofGrid 'B' jisx0208, .ofGrid '@' jisx0208, romanSet]
  match name with
  | "iso2022_jp" => some main
  | "iso2022_jp_1" => some (.ofGrid 'D' jisx0212 :: main)
  | "iso2022_jp_ext" => some (.ofGrid 'D' jisx0212 :: syllableSet :: main)
  | "iso2022_kr" => some [.ofGrid 'C' ksx1001]
  | _ => none

/-- What escapes have set: the set in use, the one kept beside it, and which counts.
Nothing stands for ASCII. -/
structure Switches where
  first : Option SwitchedSet := none
  second : Option SwitchedSet := none
  shifted : Bool := false
  /-- an escape of another kind goes on up to its last letter -/
  isForeign : Bool := false

/-- Whether a byte ends an escape. -/
def endsEscape (b : Nat) : Bool := 0x40 ≤ b && b ≤ 0x5a

/-- How long an escape is of which so many bytes have been read, if it ends soon enough;
whether the text ends before that. Two escapes may be `joined` to one. -/
def escapeSize (joined : Bool) : Nat → Nat → List Nat → Option Nat × Bool
  | 0, _, _ => (none, false)
  | _, _, [] => (none, true)
  | fuel + 1, read, b :: rest =>
    if 16 ≤ read then (none, false)
    else if endsEscape b then (some (read + 1), false)
    else if joined && b = 0x26 && rest.head? = some 0x40 then
      escapeSize joined fuel (read + 3) (rest.drop 2)
    else escapeSize joined fuel (read + 1) rest

/-- The set that an escape names and whether it is kept beside the one in use; nothing
if it names none. -/
def switchOf (sets : List SwitchedSet) (escape : List Nat) : Option (Bool × Option SwitchedSet) :=
  let find (size letter : Nat) : Option (Option SwitchedSet) :=
    (sets.find? fun s => s.size = size && s.letter.toNat = letter).map some
  let single (letter : Nat) : Option (Option SwitchedSet) :=
    if letter = 0x42 then some none else find 1 letter
  match escape with
  | [_, 0x24, letter] => (find 2 letter).map (false, ·)
  | [_, 0x28, letter] => (single letter).map (false, ·)
  | [_, 0x29, letter] => (single letter).map (true, ·)
  | [_, 0x24, 0x28, letter] => (find 2 letter).map (false, ·)
  | [_, 0x24, 0x29, letter] => (find 2 letter).map (true, ·)
  | [_, _, _, 0x1b, 0x24, 0x42] => (find 2 0x42).map (false, ·)
  | _ => none

/-- Reads on; `shifts` says that control characters choose between two sets. -/
def switchedFrom (sets : List SwitchedSet) (shifts : Bool) : Nat → Switches → List Nat → List Char
  | 0, _, _ | _, _, [] => []
  | fuel + 1, s, b :: rest =>
    let go (s : Switches) (bs : List Nat) : List Char := switchedFrom sets shifts fuel s bs
    let plain (s : Switches) : List Char := Char.ofNat b :: go s rest
    if s.isForeign then plain { s with isForeign := !endsEscape b }
    else if b = 0x1b then
      match rest with
      | [] => [replacement]
      | c :: _ =>
        if [0x28, 0x29, 0x24, 0x2e, 0x26].contains c then
          match escapeSize (!shifts) 16 1 rest with
          | (none, true) => [replacement]
          | (none, false) => replacement :: go s rest
          | (some size, _) =>
            let behind := rest.drop (size - 1)
            match switchOf sets (b :: rest.take (size - 1)) with
            | some (false, set) => go { s with first := set } behind
            | some (true, set) => go { s with second := set } behind
            | none => replacement :: go s behind
        else plain { s with isForeign := true }
    else if shifts && b = 0x0f then go { s with shifted := false } rest
    else if shifts && b = 0x0e then go { s with shifted := true } rest
    else if b = 0x0a then plain { s with shifted := false }
    else if b < 0x20 then plain s
    else if 0x80 ≤ b then replacement :: go s rest
    else match if s.shifted then s.second else s.first with
      | none => plain s
      | some set =>
        if rest.length + 1 < set.size then [replacement]
        else
          let c := (set.char? (b :: rest.take (set.size - 1))).getD replacement
          c :: go s (rest.drop (set.size - 1))

/-- The text of bytes in which escapes switch between sets. -/
def switchedText (sets : List SwitchedSet) (shifts : Bool) (bs : List Nat) : String :=
  String.ofList (switchedFrom sets shifts bs.length {} bs)

end PullReview.Text
