import PullReview.Number.Shortest

/-!
# Fractions in decimals

A fraction is written with a fixed number of decimal places, with an exponent,
or in whichever of the two is shorter. It may be rounded to a number of binary
digits first, as a machine holds it.
-/

namespace PullReview.Decimals

open Double (digitText digitCount zeros)

/-- A fraction rounded to so many binary digits, with unlimited exponents. -/
def rounded (bits num den : Nat) : Nat × Nat :=
  if num = 0 then (0, 1)
  else
    let guess : Int := (num.log2 : Int) - (den.log2 : Int) - bits + 1
    let (n, d) := Double.scaled num den (guess - 1)
    let e := if n < d * Nat.pow 2 bits then guess - 1 else guess
    let (n, d) := Double.scaled num den e
    Double.fraction (roundedQuotient n d) e

/-- A fraction of the decimal `digits · 10 ^ power`. -/
def ofDecimal (digits : Nat) : Int → Nat × Nat
  | .ofNat k => (digits * Nat.pow 10 k, 1)
  | .negSucc k => (digits, Nat.pow 10 (k + 1))

/-- Digits with a point before the last `places` of them. -/
def pointed (places : Nat) (keepsPoint : Bool) (digits : Nat) : String :=
  let rest := digitText (digits % Nat.pow 10 places)
  digitText (digits / Nat.pow 10 places) ++
    if places = 0 then (if keepsPoint then "." else "")
    else "." ++ zeros (places - rest.length) ++ rest

/-- A fraction with a fixed number of places. -/
def fixed (places : Nat) (keepsPoint : Bool) (num den : Nat) : String :=
  pointed places keepsPoint (roundedQuotient (num * Nat.pow 10 places) den)

/-- A fraction times a power of ten, rounded. -/
def shifted (num den : Nat) : Int → Nat
  | .ofNat k => roundedQuotient (num * Nat.pow 10 k) den
  | .negSucc k => roundedQuotient num (den * Nat.pow 10 (k + 1))

/-- The digits of a fraction, one before the point and `places` behind it, and the
power of ten of the first. -/
def leading (places : Nat) (num den : Nat) : Nat × Int :=
  if num = 0 then (0, 0)
  else
    let first : Int := if den ≤ num then (digitCount (num / den) : Int) - 1
      else
        let guess : Int := -(digitCount (den / num) : Int)
        if den ≤ num * Nat.pow 10 (-guess - 1).toNat then guess + 1 else guess
    let digits := shifted num den (places - first)
    if digits = Nat.pow 10 (places + 1) then (Nat.pow 10 places, first + 1) else (digits, first)

/-- An exponent with a sign and at least two digits. -/
def exponent (power : Int) : String :=
  let digits := digitText power.natAbs
  "e" ++ (if power < 0 then "-" else "+") ++ zeros (2 - digits.length) ++ digits

/-- A fraction with an exponent. -/
def scientific (places : Nat) (keepsPoint : Bool) (num den : Nat) : String :=
  let (digits, power) := leading places num den
  pointed places keepsPoint digits ++ exponent power

/-- Leaves out zeros at the end behind a point, and a point at the end. -/
def withoutZeros (text : String) : String :=
  if text.toList.contains '.' then
    let cs := text.toList.reverse.dropWhile (· = '0')
    String.ofList (match cs with
      | '.' :: rest => rest.reverse
      | cs => cs.reverse)
  else text

/-- A fraction with so many significant digits, with an exponent if it is small or
needs more digits than that. -/
def general (significant : Nat) (keepsZeros : Bool) (num den : Nat) : String :=
  let significant := max significant 1
  let (digits, power) := leading (significant - 1) num den
  let trim (text : String) : String := if keepsZeros then text else withoutZeros text
  if -4 ≤ power && power < significant then
    trim (fixed (significant - 1 - power).toNat keepsZeros num den)
  else trim (pointed (significant - 1) keepsZeros digits) ++ exponent power

end PullReview.Decimals
