import PullReview.Report.Aggregate
import PullReview.Report.Group
import PullReview.Text.Lines

/-!
# The report in Markdown

The summary of a result: a title that shows the state, a table of counts, and
one list entry per group of findings. A message of several lines keeps inside
its entry by indentation. The summary comment starts with a hidden marker by
which later runs find it again.
-/

namespace PullReview

open Text

/-- Hidden in every comment of this program. -/
def marker : String := "<!-- pr-quality-review -->"

/-- Lines between two findings of one group, at most. -/
def defaultGap : Int := 2

/-- The lines of a message that are not blank, trimmed. -/
def tellingLines (message : String) : List String :=
  (((separatedLines (trim message.toList)).map trim).filter (fun l => !l.isEmpty)).map
    String.ofList

/-- A message inside a list entry; lines after the first are indented. -/
def inlineMessage (message : String) : String := join "\n  " (tellingLines message)

namespace FindingGroup

/-- The lines of a group behind its file name. -/
def location (g : FindingGroup) : String :=
  match g.span with
  | none => ""
  | some (first, last) => if first = last then s!":{first}" else s!":{first}-{last}"

/-- The list entry of a group. -/
def entry (g : FindingGroup) : String :=
  let count := if 1 < g.count then s!" _({g.count} occurrences)_" else ""
  let note := match g.note with
    | some note => if note = "" then "" else "\n  > " ++ note
    | none => ""
  "- `" ++ g.file ++ g.location ++ "` **[" ++ g.tool ++ "/" ++ g.rule ++ "]** " ++
    inlineMessage g.message ++ count ++ note

end FindingGroup

namespace ReviewResult

/-- The sign of a result: red for blocking findings, else yellow for warnings,
else green. -/
def icon (r : ReviewResult) : String :=
  if !r.blocking.isEmpty then "🔴"
  else if !r.warnings.isEmpty then "🟡"
  else "🟢"

/-- The entries of a list of findings. -/
def entries (gap : Int) (findings : List Finding) : List String :=
  (FindingGroup.ofFindings gap findings).map FindingGroup.entry

/-- The pieces of the report, to be joined by line feeds. -/
def reportLines (r : ReviewResult) (gap : Int) : List String :=
  [ s!"## {r.icon} PR Quality Report",
    "",
    "| Severity | Count |",
    "|----------|-------|",
    s!"| Blocking | **{r.blocking.length}** |",
    s!"| Warning  | {r.warnings.length} |",
    "" ] ++
  (if r.blocking.isEmpty then []
    else ["### Blocking", ""] ++ entries gap r.blocking ++ [""]) ++
  (if r.warnings.isEmpty then []
    else
      ["<details>",
        s!"<summary>Warnings ({r.warnings.length}, click to expand)</summary>", ""] ++
      entries gap r.warnings ++ ["", "</details>"]) ++
  (if r.blocking.isEmpty && r.warnings.isEmpty then ["No issues found in the changed files."]
    else [])

/-- The summary comment. -/
def summary (r : ReviewResult) (gap : Int) : String := join "\n" (marker :: r.reportLines gap)

/-- The report for the page of the job. -/
def stepSummary (r : ReviewResult) (gap : Int) : String := join "\n" (r.reportLines gap) ++ "\n"

end ReviewResult

/-- The text of a comment on a single line. -/
def Finding.commentText (f : Finding) : String :=
  let note := match f.note with
    | some note => if note = "" then "" else "\n\n> " ++ note
    | none => ""
  "**[" ++ f.tool ++ "/" ++ f.rule ++ "]** " ++ f.message ++ note

/-- The verdict on a result. -/
structure Outcome where
  result : ReviewResult
  passed : Bool
  message : String
  deriving DecidableEq, Repr

/-- A result passes unless something in it blocks. -/
def ReviewResult.outcome (r : ReviewResult) : Outcome :=
  if r.blocking.isEmpty then ⟨r, true, "Review complete: no blocking issues."⟩
  else ⟨r, false, s!"{r.blocking.length} blocking issue(s) found. Fix them before merging."⟩

end PullReview
