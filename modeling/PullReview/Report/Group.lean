import PullReview.Finding

/-!
# Grouping neighbours

Neighbouring findings of one rule in one file are shown as one entry when their
lines are close together. A group remembers the first finding's message and
note, the range of lines and how many findings it stands for.
-/

namespace PullReview

structure FindingGroup where
  tool : String
  rule : String
  file : String
  /-- the first and the last line -/
  span : Option (Int × Int)
  count : Nat
  message : String
  note : Option String
  deriving DecidableEq, Repr, Inhabited

namespace FindingGroup

/-- The group of one finding. -/
def single (f : Finding) : FindingGroup :=
  ⟨f.tool, f.rule, f.file, f.line.map fun n => (n, n), 1, f.message, f.note⟩

/-- Whether a finding goes on with a group: same file, rule and tool, both
lines known and at most `gap` lines further. -/
def continues (gap : Int) (g : FindingGroup) (f : Finding) : Bool :=
  g.file = f.file && g.rule = f.rule && g.tool = f.tool &&
    match f.line, g.span with
    | some line, some (_, last) => line - last ≤ gap
    | _, _ => false

/-- The group with one more finding at its end. -/
def extend (g : FindingGroup) (f : Finding) : FindingGroup :=
  let span := match g.span, f.line with
    | some (first, _), some line => some (first, line)
    | span, _ => span
  { g with span := span, count := g.count + 1 }

/-- Grows the open group along the findings, closing it where one does not go
on with it. -/
def collect (gap : Int) : FindingGroup → List Finding → List FindingGroup
  | g, [] => [g]
  | g, f :: fs =>
    if g.continues gap f then collect gap (g.extend f) fs
    else g :: collect gap (single f) fs

/-- The groups of a list of findings, in order. -/
def ofFindings (gap : Int) : List Finding → List FindingGroup
  | [] => []
  | f :: fs => collect gap (single f) fs

end FindingGroup

end PullReview
