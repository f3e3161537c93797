import PullReview.Number.Numeral
import PullReview.Settings.ShellWords
import PullReview.Text.Case

/-!
# Values of settings

How the text of a variable is read as a truth value, a list, a command, a whole
number or a number of seconds.
-/

namespace PullReview.Settings

open Text

/-- A truth value: one of four words, whatever their case, says yes; any other
text says no. -/
def readFlag (raw : Option String) (default : Bool) : Bool :=
  match raw with
  | none => default
  | some s => ["1", "true", "yes", "on"].contains (String.ofList ((trim s.toList).map small))

/-- A list: the items between commas, trimmed, without empty ones. -/
def readList (raw : Option String) (default : List String) : List String :=
  match raw with
  | none => default
  | some s =>
    if allBlank s.toList then default
    else
      let items := (splitAtEach ',' s.toList).map trim
      (items.filter fun i => !i.isEmpty).map String.ofList

/-- A command in shell words. -/
def readCommand (raw : Option String) (default : List String) : Except Fault (List String) :=
  match raw with
  | none => .ok default
  | some s => if allBlank s.toList then .ok default else ShellWords.ofText s

/-- A whole number, if the variable is set. -/
def readWhole (name : String) (raw : Option String) : Except Fault (Option Int) :=
  match raw with
  | none => .ok none
  | some s =>
    if allBlank s.toList then .ok none
    else
      match Numeral.readInt s with
      | .ok n => .ok (some n)
      | .error _ => .error (.settings (.notAnInteger name))

/-- Blanks that may stand around a number: all but the information separators. -/
def trimNumber (cs : List Char) : List Char :=
  let cs := cs.dropWhile Numeral.isPadding
  (cs.reverse.dropWhile Numeral.isPadding).reverse

def isDigit (c : Char) : Bool := '0' ≤ c && c ≤ '9'

/-- The words for numbers without digits, in small letters. -/
def named? (negative : Bool) (cs : List Char) : Option Double :=
  match String.ofList (cs.map Char.toLower) with
  | "inf" | "infinity" => some (.infinite negative)
  | "nan" => some .nan
  | _ => none

/-- The power of ten behind `e`; 0 when there is none. -/
def power? : List Char → Option Int
  | [] => some 0
  | c :: cs =>
    if c ≠ 'e' && c ≠ 'E' then none
    else
      let (negative, ds) := Numeral.takeSign cs
      if ds.isEmpty || !ds.all isDigit then none
      else
        let n : Int := Numeral.ofDigits (Numeral.digitValues ds)
        some (if negative then -n else n)

/-- A number in decimal, with an optional fraction and power of ten. -/
def plainNumber? (cs : List Char) : Option Double := do
  let (negative, body) := Numeral.takeSign cs
  match named? negative body with
  | some x => some x
  | none =>
    let whole := body.takeWhile isDigit
    let rest := body.dropWhile isDigit
    let (fraction, rest) := match rest with
      | '.' :: more => (more.takeWhile isDigit, more.dropWhile isDigit)
      | _ => ([], rest)
    if whole.isEmpty && fraction.isEmpty then none
    let power ← power? rest
    let digits := Numeral.ofDigits (Numeral.digitValues (whole ++ fraction))
    some (.ofDecimal negative digits (power - fraction.length))

/-- Whether underscores stand only alone and inside. -/
def underscoresInside (cs : List Char) : Bool :=
  cs.head? ≠ some '_' && cs.getLast? ≠ some '_' &&
    !(cs.zip (cs.drop 1)).any fun (a, b) => a = '_' && b = '_'

/-- A number of seconds. Blanks may stand around it, or else underscores inside. -/
def readSeconds (s : String) : Option Double :=
  let cs := s.toList
  match plainNumber? (trimNumber cs) with
  | some x => some x
  | none =>
    if underscoresInside cs then plainNumber? (cs.filter (· ≠ '_')) else none

end PullReview.Settings
