import PullReview.Changes.Map
import PullReview.Finding
import PullReview.Path

/-!
# Diagnostics and the change

A tool reports diagnostics about any file it likes. Those that lie on a changed
line become findings of the review, under the path that the change map uses;
the others are dropped.
-/

namespace PullReview

/-- What a tool says about a place, before anything is known of the change. -/
structure Diagnostic where
  file : String
  line : Option Int
  column : Option Int
  rule : Option String
  severity : Severity
  message : String
  deriving DecidableEq, Repr, Inhabited

/-- The finding for a diagnostic, if it lies on a changed line. A severity given
beforehand counts instead of the diagnostic's own. -/
def Diagnostic.finding? (d : Diagnostic) (workspace : List String) (tool : String)
    (changes : ChangeMap) (fixed : Option Severity) : Option Finding :=
  let path := (Path.ofString d.file).relativeTo workspace
  match d.line with
  | none => none
  | some line =>
    if changes.touches path line then
      some {
        tool := tool
        rule := match d.rule with
          | some rule => if rule = "" then "unknown" else rule
          | none => "unknown"
        severity := fixed.getD d.severity
        file := path
        message := d.message
        line := some line
        column := d.column
        note := none }
    else none

/-- The findings among a tool's diagnostics, in order. -/
def findingsOnChange (workspace : List String) (tool : String) (changes : ChangeMap)
    (fixed : Option Severity) (ds : List Diagnostic) : List Finding :=
  ds.filterMap (·.finding? workspace tool changes fixed)

end PullReview
