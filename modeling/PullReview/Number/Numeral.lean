import PullReview.Number.Shortest
import PullReview.Text.Lines

/-!
# Reading numerals

Whole numbers are written with decimal digits of any script, an optional sign,
single underscores between digits and blanks around. At most 4300 digits are
read, underscores not counted, and no more are written.
-/

namespace PullReview.Text

/-!
## Decimal digits of every script

Unicode assigns each decimal digit (general category `Nd`) a value, in runs of
ten from zero to nine. Superscripts, circled digits and their like are digits
too, but have no place in a decimal numeral.
-/

/-- The zero of every run of ten decimal digits, in ascending order. -/
def digitZeros : List Nat := [
  0x30, 0x660, 0x6f0, 0x7c0, 0x966, 0x9e6, 0xa66, 0xae6, 0xb66, 0xbe6,
  0xc66, 0xce6, 0xd66, 0xde6, 0xe50, 0xed0, 0xf20, 0x1040, 0x1090, 0x17e0,
  0x1810, 0x1946, 0x19d0, 0x1a80, 0x1a90, 0x1b50, 0x1bb0, 0x1c40, 0x1c50, 0xa620,
  0xa8d0, 0xa900, 0xa9d0, 0xa9f0, 0xaa50, 0xabf0, 0xff10, 0x104a0, 0x10d30, 0x11066,
  0x110f0, 0x11136, 0x111d0, 0x112f0, 0x11450, 0x114d0, 0x11650, 0x116c0, 0x11730, 0x118e0,
  0x11950, 0x11c50, 0x11d50, 0x11da0, 0x16a60, 0x16ac0, 0x16b50, 0x1d7ce, 0x1d7d8, 0x1d7e2,
  0x1d7ec, 0x1d7f6, 0x1e140, 0x1e2f0, 0x1e950, 0x1fbf0]

/-- Ranges of the digits outside the decimal runs: superscripts, subscripts,
circled and parenthesised digits, and digits of scripts without a zero. -/
def otherDigitRanges : List (Nat × Nat) := [
  (0xb2, 0xb3), (0xb9, 0xb9), (0x1369, 0x1371), (0x19da, 0x19da), (0x2070, 0x2070),
  (0x2074, 0x2079), (0x2080, 0x2089), (0x2460, 0x2468), (0x2474, 0x247c), (0x2488, 0x2490),
  (0x24ea, 0x24ea), (0x24f5, 0x24fd), (0x24ff, 0x24ff), (0x2776, 0x277e), (0x2780, 0x2788),
  (0x278a, 0x2792), (0x10a40, 0x10a43), (0x10e60, 0x10e68), (0x11052, 0x1105a), (0x1f100, 0x1f10a)]

/-- The value of a decimal digit of any script. -/
def digitValue? (c : Char) : Option Nat :=
  let n := c.toNat
  if n < 0x80 then if 0x30 ≤ n && n ≤ 0x39 then some (n - 0x30) else none
  else (digitZeros.find? fun start => start ≤ n && n < start + 10).map (n - ·)

/-- Decimal digits: the characters with a digit value. -/
def isDecimalDigit (c : Char) : Bool := (digitValue? c).isSome

/-- Digits of every kind, the decimal ones among them. -/
def isDigitKind (c : Char) : Bool :=
  isDecimalDigit c || otherDigitRanges.any fun (lo, hi) => lo ≤ c.toNat && c.toNat ≤ hi

/-- A non-empty text of digits of any kind. -/
def allDigitKind (cs : List Char) : Bool := !cs.isEmpty && cs.all isDigitKind

end PullReview.Text

namespace PullReview

open Text

/-! ## Numerals -/

/-- Why a text is not read as a whole number. -/
inductive NumeralFault where
  | malformed
  | tooLong (digits : Nat)
  deriving DecidableEq, Repr

namespace Numeral

/-- The greatest number of digits that is read or written. -/
def maxDigits : Nat := 4300

/-- The least number with more than so many digits. -/
def firstBeyond (digits : Nat) : Nat := Nat.pow 10 digits

/-- Whether a number has few enough digits to be written. -/
def isShort (n : Int) : Bool := n.natAbs < firstBeyond maxDigits

/-- Blanks allowed around a numeral: all but the information separators. -/
def isPadding (c : Char) : Bool :=
  isBlank c && !(0x1c ≤ c.toNat && c.toNat ≤ 0x1f)

/-- The number that a list of digit values writes. -/
def ofDigits (ds : List Nat) : Nat := ds.foldl (fun n d => 10 * n + d) 0

/-- The digits in front, each alone or after one underscore; with them what
follows. The flag says that a digit has just been read. -/
def takeDigits : Bool → List Char → List Nat × List Char
  | _, [] => ([], [])
  | afterDigit, c :: cs =>
    match digitValue? c with
    | some d => let (ds, rest) := takeDigits true cs; (d :: ds, rest)
    | none =>
      if c = '_' && afterDigit then
        match cs with
        | next :: more =>
          match digitValue? next with
          | some d => let (ds, rest) := takeDigits true more; (d :: ds, rest)
          | none => ([], c :: cs)
        | [] => ([], [c])
      else ([], c :: cs)

/-- Reads the digits of a number, refusing more than the limit. -/
def natOf (ds : List Nat) : Except NumeralFault Nat :=
  if maxDigits < ds.length then .error (.tooLong ds.length) else .ok (ofDigits ds)

/-- The sign in front of a numeral, and the rest. -/
def takeSign : List Char → Bool × List Char
  | '-' :: cs => (true, cs)
  | '+' :: cs => (false, cs)
  | cs => (false, cs)

/-- Reads a whole number. -/
def readInt (s : String) : Except NumeralFault Int := do
  let (negative, cs) := takeSign (s.toList.dropWhile isPadding)
  let (ds, rest) := takeDigits false cs
  if ds.isEmpty then throw .malformed
  let n ← natOf ds
  if rest.all isPadding then
    return if negative then -(n : Int) else n
  throw .malformed

/-- The values of a text of decimal digits alone. -/
def digitValues (cs : List Char) : List Nat := cs.filterMap digitValue?

/-- The decimal digits in front, at least one, and what follows. -/
def digitsInFront? (cs : List Char) : Option (List Nat × List Char) :=
  let ds := cs.takeWhile isDecimalDigit
  if ds.isEmpty then none else some (digitValues ds, cs.dropWhile isDecimalDigit)

end Numeral

/-- A text of digits alone as a double; digits outside the decimal runs have no
value. -/
def Double.ofDigits? (cs : List Char) : Option Double :=
  if cs.all isDecimalDigit && !cs.isEmpty then
    some (.ofDecimal false (Numeral.ofDigits (Numeral.digitValues cs)) 0)
  else none

end PullReview
