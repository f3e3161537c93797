/-!
# Binary floating-point numbers

A `Double` is a value of the 64-bit binary format, held as an exact product
`mantissa · 2 ^ exponent`. Every operation computes exactly on natural numbers
first and then rounds once, to the nearest value and with ties to the even
mantissa; so equality, order and text need no hardware arithmetic.
-/

namespace PullReview

/-- A value of the 64-bit binary format. A finite value has its mantissa below
`2 ^ 53` and its exponent between `-1074` and `971`; the mantissa has 53 bits
unless the exponent is `-1074`. -/
inductive Double where
  | finite (negative : Bool) (mantissa : Nat) (exponent : Int)
  | infinite (negative : Bool)
  | nan
  deriving DecidableEq, Repr, Inhabited

/-- A quotient rounded to the nearest natural number, ties to the even one. -/
def roundedQuotient (num den : Nat) : Nat :=
  let q := num / den
  let twice := 2 * (num % den)
  if twice < den then q
  else if den < twice then q + 1
  else if q % 2 = 0 then q else q + 1

namespace Double

def zero (negative : Bool) : Double := .finite negative 0 (-1074)

def isFinite : Double → Bool
  | .finite .. => true
  | .infinite _ | .nan => false

/-- `num / den` as a fraction times `2 ^ exponent`. -/
def scaled (num den : Nat) (exponent : Int) : Nat × Nat :=
  match exponent with
  | .ofNat k => (num, den * Nat.pow 2 k)
  | .negSucc k => (num * Nat.pow 2 (k + 1), den)

/-- The double nearest to the quotient `num / den` with the given sign. -/
def ofRatio (negative : Bool) (num den : Nat) : Double :=
  if num = 0 ∨ den = 0 then zero negative
  else
    let guess : Int := (num.log2 : Int) - (den.log2 : Int) - 52
    -- the quotient has 53 or 54 bits above `2 ^ (guess - 1)`
    let fits (e : Int) : Bool := let (n, d) := scaled num den e; n < d * Nat.pow 2 53
    let e := if fits (guess - 1) then guess - 1 else guess
    let e := max e (-1074)
    let (n, d) := scaled num den e
    let m := roundedQuotient n d
    let (m, e) := if m = Nat.pow 2 53 then (Nat.pow 2 52, e + 1) else (m, e)
    if 971 < e then .infinite negative
    else if m = 0 then zero negative
    else .finite negative m e

/-- The double nearest to `digits · 10 ^ power`, with the given sign. Powers so
far out that every digit count leads to infinity or to zero are not computed. -/
def ofDecimal (negative : Bool) (digits : Nat) (power : Int) : Double :=
  if digits = 0 then zero negative
  else
    let magnitude : Int := (digits.log2 : Int) / 4 + power
    if 400 < magnitude then .infinite negative
    else if power + (digits.log2 : Int) < -400 then zero negative
    else match power with
      | .ofNat k => ofRatio negative (digits * Nat.pow 10 k) 1
      | .negSucc k => ofRatio negative digits (Nat.pow 10 (k + 1))

/-- The double nearest to a whole number; none when it is too large. -/
def ofInt? (n : Int) : Option Double :=
  match ofRatio (n < 0) n.natAbs 1 with
  | .infinite _ => none
  | x => some x

/-- The absolute value of a finite double as a fraction. -/
def fraction (mantissa : Nat) (exponent : Int) : Nat × Nat :=
  match exponent with
  | .ofNat k => (mantissa * Nat.pow 2 k, 1)
  | .negSucc k => (mantissa, Nat.pow 2 (k + 1))

/-- The product, rounded. -/
def mul : Double → Double → Double
  | .nan, _ | _, .nan => .nan
  | .infinite a, .infinite b => .infinite (a != b)
  | .infinite a, .finite b m _ | .finite b m _, .infinite a =>
    if m = 0 then .nan else .infinite (a != b)
  | .finite a m e, .finite b n f =>
    let (num, den) := fraction (m * n) (e + f)
    ofRatio (a != b) num den

/-- The quotient, rounded; a quotient by nothing is infinite or undefined. -/
def div : Double → Double → Double
  | .nan, _ | _, .nan | .infinite _, .infinite _ => .nan
  | .infinite a, .finite b _ _ => .infinite (a != b)
  | .finite a _ _, .infinite b => zero (a != b)
  | .finite a m e, .finite b n f =>
    if n = 0 then (if m = 0 then .nan else .infinite (a != b))
    else
      let (x, d) := fraction m e
      let (y, c) := fraction n f
      ofRatio (a != b) (x * c) (d * y)

/-- The exact value of a finite double as a numerator over a denominator. -/
def exact (negative : Bool) (mantissa : Nat) (exponent : Int) : Int × Nat :=
  let (num, den) := fraction mantissa exponent
  (if negative then -(num : Int) else num, den)

/-- The difference, rounded; a difference of nothing is a positive zero. -/
def sub : Double → Double → Double
  | .nan, _ | _, .nan => .nan
  | .infinite a, .infinite b => if a = b then .nan else .infinite a
  | .infinite a, .finite .. => .infinite a
  | .finite .., .infinite b => .infinite (!b)
  | .finite a m e, .finite b n f =>
    let (x, d) := exact a m e
    let (y, c) := exact b n f
    let diff := x * c - y * d
    if diff = 0 then zero (a && !b && m = 0 && n = 0)
    else ofRatio (diff < 0) diff.natAbs (d * c)

/-- Whether the value is zero, of either sign. -/
def isZero : Double → Bool
  | .finite _ 0 _ => true
  | _ => false

/-- Whether the value is at least zero; neither negative values nor the
undefined value are, while a negative zero is. -/
def isNonnegative : Double → Bool
  | .nan => false
  | .infinite negative => !negative
  | .finite negative m _ => !negative || m = 0

/-- The whole part of a finite value, toward zero. -/
def truncate? : Double → Option Int
  | .finite negative m e =>
    let (num, den) := fraction m e
    some (if negative then -((num / den : Nat) : Int) else (num / den : Nat))
  | _ => none

end Double

end PullReview
