import PullReview.Lint.Report
import PullReview.Diagnostic
import PullReview.Program

/-!
# Calling the linter

One call lints a list of files and gives the report on them. Exit codes 0 and 1
come with a report; any other one is a crash.
-/

namespace PullReview

/-- How the linter is called. -/
structure Linter where
  workspace : Path
  command : List String
  environment : List (String × String)
  /-- how deep a report may be nested -/
  depth : Nat := Json.usualDepth

namespace Linter

variable {σ : Type}

/-- Variables with others laid over them. -/
def layOver (base more : List (String × String)) : List (String × String) :=
  more.foldl (fun vars (name, value) =>
    if vars.any (·.1 = name) then
      vars.map fun v => if v.1 = name then (name, value) else v
    else vars ++ [(name, value)]) base

/-- The words of a call. -/
def words (l : Linter) (files : List String) (config : Option String) : List String :=
  l.command ++ ["--format", "json", "--no-error-on-unmatched-pattern"] ++
    (match config with | some name => ["--config", name] | none => []) ++ ["--"] ++ files

/-- The report in what a call printed. -/
def readResult (l : Linter) (result : CommandResult) : Except Fault (List LintFile) :=
  if result.code ≠ 0 ∧ result.code ≠ 1 then
    .error (.lint (.crashed result.code result.stderr))
  else
    match Json.read l.depth (if result.stdout = "" then "[]" else result.stdout) with
    | .error fault =>
      if fault.isMalformed then .error (.lint (.notJson result.code result.stderr))
      else .error (.json fault)
    | .ok v => LintFile.ofReport v

/-- Lints files, by a configuration file of the workspace if one is given, with
more variables set. Nothing is called for no files. -/
def lint (l : Linter) (shell : Shell σ) (files : List String) (config : Option String)
    (more : List (String × String)) : Act σ (List LintFile) := do
  if files.isEmpty then return []
  let result ← shell {
    argv := l.words files config
    directory := some l.workspace
    environment := layOver l.environment more }
  match l.readResult result with
  | .ok report => return report
  | .error fault => throw fault

end Linter

/-- A linter's message as a diagnostic, under a severity. -/
def LintMessage.diagnostic (m : LintMessage) (file : String) (severity : Severity) :
    Diagnostic where
  file := file
  line := m.line
  column := m.column
  rule := m.rule
  severity := severity
  message := m.message

end PullReview
