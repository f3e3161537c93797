import PullReview.Fault

/-!
# What the linter reports

The linter reports a list of files, each with its messages. Entries and fields
of a wrong kind are passed over or replaced: a message without a severity is a
warning, a line that is no whole number is unknown.
-/

namespace PullReview

open Text

structure LintMessage where
  rule : Option String
  severity : Int
  message : String
  line : Option Int
  column : Option Int
  fatal : Bool

structure LintFile where
  path : String
  messages : List LintMessage

namespace LintMessage

/-- The severity of a message that blocks. -/
def errorLevel : Int := 2

/-- The severity of a message that names none. -/
def warningLevel : Int := 1

/-- The whole number that a value stands for: the number itself, or a text of
digits. -/
def wholeNumber (v : Json) : Except Fault (Option Int) :=
  match v with
  | .int n => .ok (some n)
  | .str s =>
    if allDigitKind (trim s.toList) then
      match Numeral.readInt s with
      | .ok n => .ok (some n)
      | .error fault => .error (fault.fault s)
    else .ok none
  | _ => .ok none

/-- The text of a message field; a missing or empty one is no text. -/
def messageText (v : Json) : String := if v.isTruthy then trimmed v.display else ""

/-- Reads a message from an object. -/
def ofJson (v : Json) : Except Fault LintMessage := do
  let severity ← wholeNumber (v.getD "severity")
  let line ← wholeNumber (v.getD "line")
  let column ← wholeNumber (v.getD "column")
  return {
    rule := (v.getD "ruleId").str?
    severity := severity.getD warningLevel
    message := messageText (v.getD "message")
    line := line
    column := column
    fatal := (v.getD "fatal").isTruthy }

end LintMessage

namespace LintFile

/-- Whether the linter passed the file over by its own ignore rules: it then
says so in a single message without a rule. -/
def isIgnored (f : LintFile) : Bool :=
  match f.messages with
  | [m] => m.rule.isNone && "File ignored".toList.isPrefixOf m.message.toList
  | _ => false

/-- The objects among the messages of an entry. A text or an object in place of
the list has none; a number or a truth value cannot be gone through. -/
def messageObjects (v : Json) : Except Fault (List Json) :=
  if !v.isTruthy then .ok []
  else match v with
    | .arr items => .ok (items.filter fun m => match m with | .obj _ => true | _ => false)
    | .str _ | .obj _ | .null => .ok []
    | .bool _ | .int _ | .float _ => .error (.misuse (.notIterable v.kindName))

/-- Reads an entry of the report, if it names a file. -/
def ofJson? (v : Json) : Except Fault (Option LintFile) :=
  match v.getD "filePath" with
  | .str path => do
    let objects ← messageObjects (v.getD "messages")
    let messages ← objects.mapM LintMessage.ofJson
    return some ⟨path, messages⟩
  | _ => .ok none

/-- Reads a report: the entries that name a file, in order. -/
def ofReport (v : Json) : Except Fault (List LintFile) :=
  match v with
  | .arr entries => do
    let files ← entries.mapM ofJson?
    return files.filterMap id
  | _ => .error (.lint .notAList)

end LintFile

end PullReview
