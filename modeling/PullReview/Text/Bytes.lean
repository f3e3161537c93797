/-!
# Bytes as text

Text in UTF-8 is read leniently here: every longest start of a broken sequence
becomes one replacement character, and reading goes on with the byte that broke
it. `String.fromUTF8?` is the strict counterpart.
-/

namespace PullReview.Text

/-- A decoder in the middle of a sequence: the bits so far, how many bytes are
still missing and between which bounds the next one has to lie. -/
structure Utf8State where
  bits : Nat := 0
  missing : Nat := 0
  lower : Nat := 0x80
  upper : Nat := 0xbf
  done : List Char := []

def replacement : Char := '\ufffd'

/-- Reads a byte that starts a sequence. -/
def Utf8State.start (done : List Char) (b : Nat) : Utf8State :=
  if b < 0x80 then { done := Char.ofNat b :: done }
  else if 0xc2 ≤ b ∧ b ≤ 0xdf then { bits := b - 0xc0, missing := 1, done := done }
  else if 0xe0 ≤ b ∧ b ≤ 0xef then
    { bits := b - 0xe0, missing := 2, done := done,
      lower := if b = 0xe0 then 0xa0 else 0x80,
      upper := if b = 0xed then 0x9f else 0xbf }
  else if 0xf0 ≤ b ∧ b ≤ 0xf4 then
    { bits := b - 0xf0, missing := 3, done := done,
      lower := if b = 0xf0 then 0x90 else 0x80,
      upper := if b = 0xf4 then 0x8f else 0xbf }
  else { done := replacement :: done }

def Utf8State.step (s : Utf8State) (b : Nat) : Utf8State :=
  if s.missing = 0 then .start s.done b
  else if s.lower ≤ b ∧ b ≤ s.upper then
    let bits := s.bits * 64 + (b - 0x80)
    if s.missing = 1 then { done := Char.ofNat bits :: s.done }
    else { bits := bits, missing := s.missing - 1, done := s.done }
  else .start (replacement :: s.done) b

/-- The characters of bytes in UTF-8, broken sequences replaced. -/
def lenientChars (bytes : ByteArray) : List Char :=
  let s : Utf8State := bytes.toList.foldl (fun s b => s.step b.toNat) {}
  (if s.missing = 0 then s.done else replacement :: s.done).reverse

def lenientText (bytes : ByteArray) : String := String.ofList (lenientChars bytes)

end PullReview.Text
