import PullReview.Text.Encoding.Broken

/-!
# Reading UTF-8 strictly

Reading stops at the first sequence that is broken and says how. Halves of
surrogate pairs written as sequences of their own are let pass, as some writers
of JSON leave them behind.
-/

namespace PullReview.Text

/-- Whether a byte goes on with a sequence. -/
def isTail (b : Nat) : Bool := 0x80 ≤ b && b ≤ 0xbf

/-- Whether the second byte of a sequence fits the first one. -/
def fitsSecond (first second : Nat) : Bool :=
  isTail second && (first ≠ 0xe0 || 0xa0 ≤ second) && (first ≠ 0xf0 || 0x90 ≤ second) &&
    (first ≠ 0xed || second ≤ 0x9f) && (first ≠ 0xf4 || second ≤ 0x8f)

/-- How many bytes follow the first byte of a sequence, if it can be one. -/
def tailSize? (b : Nat) : Option Nat :=
  if b < 0x80 then some 0
  else if 0xc2 ≤ b && b ≤ 0xdf then some 1
  else if 0xe0 ≤ b && b ≤ 0xef then some 2
  else if 0xf0 ≤ b && b ≤ 0xf4 then some 3
  else none

/-- The bytes behind the first one that go on with its sequence, at most `count`. -/
def tailOf (first count : Nat) (bs : List Nat) : List Nat :=
  match count, bs with
  | count + 1, b :: rest =>
    if fitsSecond first b then b :: (rest.take count).takeWhile isTail else []
  | _, _ => []

/-- Whether bytes begin with a sequence that writes half of a surrogate pair. -/
def beginsWithHalf : List Nat → Bool
  | 0xed :: second :: third :: _ => 0xa0 ≤ second && second ≤ 0xbf && isTail third
  | _ => false

/-- Reads on behind `place` bytes; `done` is reversed. -/
def strictFrom : Nat → Nat → List Nat → List Char → Except BrokenBytes (List Char)
  | 0, _, _, done => .ok done.reverse
  | _ + 1, _, [], done => .ok done.reverse
  | fuel + 1, place, b :: rest, done =>
    let broken (size : Nat) (reason : String) : Except BrokenBytes (List Char) :=
      .error ⟨"utf-8", b, place, size, reason⟩
    if beginsWithHalf (b :: rest) then
      strictFrom fuel (place + 3) (rest.drop 2) (replacement :: done)
    else match tailSize? b with
      | none => broken 1 "invalid start byte"
      | some size =>
        let tail := tailOf b size rest
        if tail.length = size then
          let first := if size = 0 then b else b % Nat.pow 2 (6 - size)
          let n := tail.foldl (fun n t => n * 64 + (t - 0x80)) first
          strictFrom fuel (place + size + 1) (rest.drop size) (Char.ofNat n :: done)
        else if rest.length = tail.length then broken (tail.length + 1) "unexpected end of data"
        else broken (tail.length + 1) "invalid continuation byte"

end PullReview.Text
