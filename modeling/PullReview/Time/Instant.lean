import PullReview.Number.Double

/-!
# Instants

An instant is a number of microseconds since the start of 1970 in universal
time. Dates are those of the Gregorian calendar, carried back to the year 1;
instants before it or after the year 9999 have no date.
-/

namespace PullReview

structure Instant where
  micros : Int
  deriving DecidableEq, Repr, Inhabited

structure Date where
  year : Int
  month : Nat
  day : Nat
  deriving DecidableEq, Repr, Inhabited

namespace Date

def isLeap (year : Int) : Bool := (year % 4 = 0 && year % 100 ≠ 0) || year % 400 = 0

def daysInMonth (year : Int) (month : Nat) : Nat :=
  if month = 2 then (if isLeap year then 29 else 28)
  else if [4, 6, 9, 11].contains month then 30 else 31

def isValid (d : Date) : Bool :=
  1 ≤ d.year && d.year ≤ 9999 && 1 ≤ d.month && d.month ≤ 12 &&
    1 ≤ d.day && d.day ≤ daysInMonth d.year d.month

/-- Days since the start of 1970, counted over years that start in March. -/
def toDays (d : Date) : Int :=
  let year := if d.month ≤ 2 then d.year - 1 else d.year
  let era := year / 400
  let yearOfEra := year - era * 400
  let fromMarch : Int := ((d.month + 9) % 12 : Nat)
  let dayOfYear := (153 * fromMarch + 2) / 5 + d.day - 1
  let dayOfEra := yearOfEra * 365 + yearOfEra / 4 - yearOfEra / 100 + dayOfYear
  era * 146097 + dayOfEra - 719468

/-- The date of a day counted from the start of 1970. -/
def ofDays (days : Int) : Date :=
  let shifted := days + 719468
  let era := shifted / 146097
  let dayOfEra := shifted - era * 146097
  let yearOfEra := (dayOfEra - dayOfEra / 1460 + dayOfEra / 36524 - dayOfEra / 146096) / 365
  let dayOfYear := dayOfEra - (365 * yearOfEra + yearOfEra / 4 - yearOfEra / 100)
  let fromMarch := (5 * dayOfYear + 2) / 153
  let day := dayOfYear - (153 * fromMarch + 2) / 5 + 1
  let month := if fromMarch < 10 then fromMarch + 3 else fromMarch - 9
  let year := yearOfEra + era * 400
  ⟨if month ≤ 2 then year + 1 else year, month.toNat, day.toNat⟩

end Date

/-- A number with zeros in front up to a width. -/
def padded (width n : Nat) : String :=
  let digits := Nat.toDigits 10 n
  String.ofList (List.replicate (width - digits.length) '0' ++ digits)

namespace Instant

def microsPerSecond : Int := 1000000
def microsPerDay : Int := 86400 * 1000000

/-- The first instant with a date. -/
def first : Instant := ⟨(Date.mk 1 1 1).toDays * microsPerDay⟩

/-- The last instant with a date. -/
def last : Instant := ⟨((Date.mk 9999 12 31).toDays + 1) * microsPerDay - 1⟩

def hasDate (t : Instant) : Bool := first.micros ≤ t.micros && t.micros ≤ last.micros

theorem hasDate_iff {t : Instant} :
    t.hasDate = true ↔ first.micros ≤ t.micros ∧ t.micros ≤ last.micros := by
  unfold hasDate
  rw [Bool.and_eq_true, decide_eq_true_iff, decide_eq_true_iff]

def addSeconds (t : Instant) (seconds : Int) : Instant := ⟨t.micros + seconds * microsPerSecond⟩

/-- A finite number of seconds in microseconds. The part behind the point becomes
microseconds as a double, and the sum the nearest whole number, the even one of
two. -/
def microsOfSeconds? : Double → Option Int
  | .finite negative m e =>
    let (num, den) := Double.fraction m e
    let part := Double.mul (.ofRatio false (num % den) den) (.ofRatio false 1000000 1)
    match part with
    | .finite _ n f =>
      let (a, b) := Double.fraction n f
      let total := roundedQuotient (num / den * 1000000 * b + a) b
      some (if negative then -(total : Int) else total)
    | _ => none
  | _ => none

/-- The whole seconds since the start of 1970, toward it. They are taken from
the nearest double, as clocks tell them. -/
def seconds (t : Instant) : Int :=
  ((Double.ofRatio (t.micros < 0) t.micros.natAbs 1000000).truncate?).getD 0

/-- The instant as date and time in universal time. -/
def text (t : Instant) : String :=
  let d := Date.ofDays (t.micros / microsPerDay)
  let rest := (t.micros % microsPerDay).toNat
  let micros := rest % 1000000
  let secs := rest / 1000000
  padded 4 d.year.toNat ++ "-" ++ padded 2 d.month ++ "-" ++ padded 2 d.day ++ "T" ++
    padded 2 (secs / 3600) ++ ":" ++ padded 2 (secs / 60 % 60) ++ ":" ++ padded 2 (secs % 60) ++
    (if micros = 0 then "" else "." ++ padded 6 micros) ++ "+00:00"

end Instant

end PullReview
