/-!
# Whole numbers in texts

A numeral may follow blanks and a sign. In base zero its own first digits say
which base it is in: `0x` sixteen, `0` eight. Numbers that do not fit into 64
bits become the nearest ones that do.
-/

namespace PullReview.Rehearsal.Numeral

/-- The value of a digit in the bases up to sixteen. -/
def digit? (base : Nat) (c : Char) : Option Nat :=
  let value :=
    if c.isDigit then some (c.toNat - 48)
    else if 'a' ≤ c.toLower && c.toLower ≤ 'f' then some (c.toLower.toNat - 87)
    else none
  value.filter (· < base)

def isBlank (c : Char) : Bool := c = ' ' || ('\t' ≤ c && c ≤ '\x0d')

/-- The number that the digits in front write. -/
def ofDigits (base : Nat) (cs : List Char) : Nat :=
  (cs.filterMap (digit? base)).foldl (fun n d => base * n + d) 0

/-- A numeral at the start of a text. -/
structure Reading where
  exact : Int
  rest : List Char
  /-- whether there are digits at all -/
  found : Bool

def greatest : Int := 9223372036854775807

def least : Int := -9223372036854775808

/-- The nearest number that fits into 64 bits. -/
def limited (n : Int) : Int := if greatest < n then greatest else if n < least then least else n

/-- The number, or the nearest one that fits. -/
def Reading.value (r : Reading) : Int := limited r.exact

def Reading.fits (r : Reading) : Bool := r.value = r.exact

/-- Reads the digits of a base. -/
def readDigits (base : Nat) (negative : Bool) (cs : List Char) : Reading :=
  let digits := cs.takeWhile fun c => (digit? base c).isSome
  let n : Int := ofDigits base digits
  ⟨if negative then -n else n, cs.drop digits.length, !digits.isEmpty⟩

/-- Reads a numeral. -/
def read (base : Nat) (text : List Char) : Reading :=
  let cs := text.dropWhile isBlank
  let (negative, cs) := match cs with
    | '-' :: rest => (true, rest)
    | '+' :: rest => (false, rest)
    | cs => (false, cs)
  let result := match base, cs with
    | 0, '0' :: x :: rest =>
      if x.toLower = 'x' && (rest.head?.bind (digit? 16)).isSome then readDigits 16 negative rest
      else readDigits 8 negative ('0' :: x :: rest)
    | 0, cs => readDigits 10 negative cs
    | base, cs => readDigits base negative cs
  if result.found then result else { result with rest := text }

/-- The number that a whole text writes, blanks around it left out. -/
def whole? (base : Nat) (text : String) : Option Int :=
  let result := read base text.toList
  if result.found && result.fits && (result.rest.all isBlank) then some result.value else none

end PullReview.Rehearsal.Numeral
