import PullReview.Text.Encoding.Broken

/-!
# UTF-16, UTF-32 and UTF-7

The first two write numbers of several bytes, in one of two orders: UTF-16 takes
one or two numbers for a character, UTF-32 always one. A mark at the start of a
text tells the order where it is not agreed on. UTF-7 holds UTF-16 in ASCII.
-/

namespace PullReview.Text

/-- Which byte of a number comes first: its greatest or its least. -/
inductive ByteOrder where
  | big
  | little
  deriving DecidableEq, Repr

namespace ByteOrder

/-- The ending of the name of an encoding in that order. -/
def ending : ByteOrder → String
  | .big => "-be"
  | .little => "-le"

/-- The number that bytes write. -/
def number (order : ByteOrder) (bs : List Nat) : Nat :=
  (match order with
    | .big => bs
    | .little => bs.reverse).foldl (fun n b => n * 256 + b) 0

end ByteOrder

def isHighHalf (u : Nat) : Bool := 0xd800 ≤ u && u ≤ 0xdbff

def isLowHalf (u : Nat) : Bool := 0xdc00 ≤ u && u ≤ 0xdfff

/-- The character of a surrogate pair. -/
def joined (high low : Nat) : Char := Char.ofNat (0x10000 + (high - 0xd800) * 0x400 + (low - 0xdc00))

/-- The pieces of bytes in UTF-16 behind `place` others. Halves of surrogate
pairs are let pass if `halves` says so. -/
def pieces16 (halves : Bool) (order : ByteOrder) (place : Nat) : List Nat → List Piece
  | [] => []
  | [b] => [.broken ⟨"utf-16" ++ order.ending, b, place, 1, "truncated data"⟩]
  | a :: b :: rest =>
    let u := order.number [a, b]
    let broken (size : Nat) (reason : String) : Piece :=
      .broken ⟨"utf-16" ++ order.ending, a, place, size, reason⟩
    let half (reason : String) : Piece :=
      if halves then .char replacement else broken 2 reason
    if isHighHalf u then
      match rest with
      | c :: d :: more =>
        let v := order.number [c, d]
        if isLowHalf v then .char (joined u v) :: pieces16 halves order (place + 4) more
        else half "illegal UTF-16 surrogate" :: pieces16 halves order (place + 2) (c :: d :: more)
      | rest =>
        if halves then .char replacement :: pieces16 halves order (place + 2) rest
        else [broken (2 + rest.length) "unexpected end of data"]
    else if isLowHalf u then half "illegal encoding" :: pieces16 halves order (place + 2) rest
    else .char (Char.ofNat u) :: pieces16 halves order (place + 2) rest

/-- The pieces of bytes in UTF-32 behind `place` others. -/
def pieces32 (halves : Bool) (order : ByteOrder) (place : Nat) : List Nat → List Piece
  | [] => []
  | a :: b :: c :: d :: rest =>
    let n := order.number [a, b, c, d]
    let broken (reason : String) : Piece :=
      .broken ⟨"utf-32" ++ order.ending, a, place, 4, reason⟩
    let piece :=
      if 0x10ffff < n then broken "code point not in range(0x110000)"
      else if isHighHalf n || isLowHalf n then
        if halves then .char replacement
        else broken "code point in surrogate code point range(0xd800, 0xe000)"
      else .char (Char.ofNat n)
    piece :: pieces32 halves order (place + 4) rest
  | a :: rest =>
    [.broken ⟨"utf-32" ++ order.ending, a, place, rest.length + 1, "truncated data"⟩]

/-- The order that a mark of two bytes tells, and what follows. -/
def mark16? : List Nat → Option (ByteOrder × List Nat)
  | 0xfe :: 0xff :: rest => some (.big, rest)
  | 0xff :: 0xfe :: rest => some (.little, rest)
  | _ => none

/-- The order that a mark of four bytes tells, and what follows. -/
def mark32? : List Nat → Option (ByteOrder × List Nat)
  | 0 :: 0 :: 0xfe :: 0xff :: rest => some (.big, rest)
  | 0xff :: 0xfe :: 0 :: 0 :: rest => some (.little, rest)
  | _ => none

/-!
## Reading UTF-7

UTF-7 writes ASCII as it is and all else as UTF-16 in base 64, between a plus
sign and the first byte that is no digit of base 64; a minus sign there is
dropped. What cannot be read becomes one replacement character.
-/

/-- The value of a digit of base 64. -/
def sextet? (b : Nat) : Option Nat :=
  if 0x41 ≤ b && b ≤ 0x5a then some (b - 0x41)
  else if 0x61 ≤ b && b ≤ 0x7a then some (b - 0x61 + 26)
  else if 0x30 ≤ b && b ≤ 0x39 then some (b - 0x30 + 52)
  else if b = 0x2b then some 62
  else if b = 0x2f then some 63
  else none

/-- A stretch of base 64 that is being read: the bits that make no unit yet, how
many they are, and the first half of a surrogate pair whose second one is due. -/
structure Shifted where
  bits : Nat := 0
  count : Nat := 0
  half : Option Nat := none

namespace Shifted

/-- Takes one digit more; the characters that it completes come in reverse. -/
def push (s : Shifted) (digit : Nat) : Shifted × List Char :=
  let bits := s.bits * 64 + digit
  let count := s.count + 6
  if count < 16 then ({ s with bits := bits, count := count }, [])
  else
    let weight := Nat.pow 2 (count - 16)
    let unit := bits / weight
    let left : Shifted := { bits := bits % weight, count := count - 16 }
    match s.half with
    | some high =>
      if isLowHalf unit then (left, [joined high unit])
      else if isHighHalf unit then ({ left with half := some unit }, [replacement])
      else (left, [charOf unit, replacement])
    | none =>
      if isHighHalf unit then ({ left with half := some unit }, []) else (left, [charOf unit])

/-- Whether the bits that are left over make part of a unit. -/
def isPartial (s : Shifted) : Bool := 6 ≤ s.count || s.bits ≠ 0

end Shifted

/-- Reads on, inside a stretch of base 64 or outside; `done` is reversed. -/
def utf7From : Option Shifted → List Nat → List Char → List Char
  | none, [], done => done.reverse
  | some s, [], done =>
    (if s.isPartial || s.half.isSome then replacement :: done else done).reverse
  | none, 0x2b :: 0x2d :: rest, done => utf7From none rest ('+' :: done)
  | none, 0x2b :: b :: rest, done =>
    match sextet? b with
    | none => utf7From none rest (replacement :: done)
    | some digit =>
      let (s, chars) := Shifted.push {} digit
      utf7From (some s) rest (chars ++ done)
  | none, [0x2b], done => utf7From (some {}) [] done
  | none, b :: rest, done => utf7From none rest ((if b < 0x80 then Char.ofNat b else replacement) :: done)
  | some s, b :: rest, done =>
    match sextet? b with
    | some digit =>
      let (s, chars) := s.push digit
      utf7From (some s) rest (chars ++ done)
    | none =>
      if s.isPartial then utf7From none rest (replacement :: done)
      else
        let done := if s.half.isSome && b < 0x80 then replacement :: done else done
        if b = 0x2d then utf7From none rest done
        else utf7From none rest ((if b < 0x80 then Char.ofNat b else replacement) :: done)

/-- The text of bytes in UTF-7. -/
def utf7Text (bs : List Nat) : String := String.ofList (utf7From none bs [])

end PullReview.Text
