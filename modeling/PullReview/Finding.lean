import PullReview.Number.Numeral

/-!
# Findings

A finding is one problem that a tool reports at a place of the change. Two
findings are the same if tool, file, line and rule agree; a finding without a
line concerns the whole file and is the same as no finding with one.
-/

namespace PullReview

inductive Severity where
  | blocking
  | warning
  deriving DecidableEq, Repr, Inhabited

structure Finding where
  tool : String
  rule : String
  severity : Severity
  file : String
  message : String
  line : Option Int := none
  column : Option Int := none
  note : Option String := none
  deriving DecidableEq, Repr, Inhabited

namespace Finding

/-- What makes two findings the same. -/
structure Identity where
  tool : String
  file : String
  line : Option Int
  rule : String
  deriving DecidableEq, Repr

def identity (f : Finding) : Identity := ⟨f.tool, f.file, f.line, f.rule⟩

/-- Whether the line of a finding can be written. Findings are told apart by the texts
of their lines, so one with too many digits is of no use. -/
def isWritable (f : Finding) : Bool := f.line.all Numeral.isShort

/-- The line by which a finding is placed; a finding on the whole file counts
as line 0. -/
def position (f : Finding) : Int := f.line.getD 0

/-- The order of findings in a report: by file, then line, then tool. -/
def precedes (f g : Finding) : Bool :=
  if f.file ≠ g.file then decide (f.file < g.file)
  else if f.position ≠ g.position then decide (f.position < g.position)
  else decide (f.tool ≤ g.tool)

end Finding

/-- The text of a line number, and of the lack of one. -/
def lineText : Option Int → String
  | some n => toString n
  | none => "no-line"

end PullReview
