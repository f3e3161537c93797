import PullReview.Number.Double

/-!
# Decimal text of floating-point numbers

`shortest` finds the fewest decimal digits that read back as the same double,
and of those the nearest to it. `Double.text` writes them positionally between
`10 ^ -4` and `10 ^ 16` and with an exponent outside; `Double.fixed` writes a
given number of decimal places instead.
-/

namespace PullReview

namespace Double

/-- Reading `digits · 10 ^ power` gives back the double `x`, whatever its sign. -/
def readsBack (x : Double) (digits : Nat) (power : Int) : Bool :=
  match x, ofDecimal false digits power with
  | .finite _ m e, .finite _ n f => m = n && e = f
  | _, _ => false

/-- The two neighbours of `num / den` on the grid of multiples of `10 ^ power`,
with twice the remainder above the lower one and the grid's step. -/
def neighbours (num den : Nat) (power : Int) : Nat × Nat × Nat :=
  let (n, d) := match power with
    | .ofNat k => (num, den * Nat.pow 10 k)
    | .negSucc k => (num * Nat.pow 10 (k + 1), den)
  (n / d, 2 * (n % d), d)

/-- Tries grids from coarse to fine, `fuel` of them, and takes the first that
holds a number reading back as `x`; of two such numbers the nearer one. -/
def searchShortest (x : Double) (num den : Nat) (top : Int) : Nat → Nat → Nat × Int
  | 0, _ => (0, 0)
  | fuel + 1, count =>
    let power := top - count
    let (low, twice, step) := neighbours num den power
    let lowOk := readsBack x low power
    let highOk := readsBack x (low + 1) power
    if lowOk && (!highOk || twice < step || (twice = step && low % 2 = 0)) then (low, power)
    else if highOk then (low + 1, power)
    else searchShortest x num den top fuel (count + 1)

/-- The number of decimal digits of a positive number. -/
def digitCount (n : Nat) : Nat := (Nat.toDigits 10 n).length

/-- The fewest digits that read back as a finite double other than zero,
with the power of ten of the last digit. -/
def shortest (x : Double) : Nat × Int :=
  match x with
  | .finite _ m e =>
    let (num, den) := fraction m e
    let whole := num / den
    -- an upper bound for the position of the first digit
    let top : Int :=
      if 0 < whole then digitCount whole else -((digitCount (den / num) : Int) - 2)
    searchShortest x num den top 20 0
  | _ => (0, 0)

/-- Drops zeros from the end of the digits, raising the power for each. -/
def dropZeros : Nat → Nat → Int → Nat × Int
  | 0, digits, power => (digits, power)
  | fuel + 1, digits, power =>
    if digits % 10 = 0 ∧ digits ≠ 0 then dropZeros fuel (digits / 10) (power + 1)
    else (digits, power)

/-- Decimal digits as text. -/
def digitText (n : Nat) : String := String.ofList (Nat.toDigits 10 n)

def zeros (n : Nat) : String := String.ofList (List.replicate n '0')

/-- Writes digits whose point stands after the first `point` of them. -/
def layOut (digits : String) (point : Int) : String :=
  let count : Int := digits.length
  if -4 < point ∧ point ≤ 16 then
    if point ≤ 0 then "0." ++ zeros (-point).toNat ++ digits
    else if count ≤ point then digits ++ zeros (point - count).toNat ++ ".0"
    else
      let cs := digits.toList
      String.ofList (cs.take point.toNat) ++ "." ++ String.ofList (cs.drop point.toNat)
  else
    let exponent := point - 1
    let size := digitText exponent.natAbs
    let size := if size.length < 2 then "0" ++ size else size
    let sign := if exponent < 0 then "-" else "+"
    let cs := digits.toList
    let tail := if cs.length ≤ 1 then "" else "." ++ String.ofList (cs.drop 1)
    String.ofList (cs.take 1) ++ tail ++ "e" ++ sign ++ size

/-- The shortest text that reads back: positional from `0.0001` up to below
`10 ^ 16`, with a decimal point always; otherwise with a signed exponent of at
least two digits. -/
def text : Double → String
  | .nan => "nan"
  | .infinite negative => if negative then "-inf" else "inf"
  | .finite negative 0 _ => if negative then "-0.0" else "0.0"
  | .finite negative m e =>
    let (digits, power) := shortest (.finite false m e)
    let (digits, power) := dropZeros 20 digits power
    let body := digitText digits
    let written := layOut body (body.length + power)
    if negative then "-" ++ written else written

/-- The value with exactly `places` decimal places, ties to the even digit. -/
def fixed (places : Nat) : Double → String
  | .nan => "nan"
  | .infinite negative => if negative then "-inf" else "inf"
  | .finite negative m e =>
    let (num, den) := fraction m e
    let scaled := roundedQuotient (num * Nat.pow 10 places) den
    let whole := digitText (scaled / Nat.pow 10 places)
    let rest := digitText (scaled % Nat.pow 10 places)
    let body := if places = 0 then whole
      else whole ++ "." ++ zeros (places - rest.length) ++ rest
    if negative then "-" ++ body else body

end Double

end PullReview
