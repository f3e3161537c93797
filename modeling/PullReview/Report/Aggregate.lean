import PullReview.Fault
import PullReview.Finding

/-!
# Merging findings

The findings of all tools become one result: of findings that are the same the
first is kept, the rest is put into report order, and blocking findings and
warnings are told apart.
-/

namespace PullReview

/-- A merged result. The two parts hold the findings of `all`, in its order. -/
structure ReviewResult where
  blocking : List Finding
  warnings : List Finding
  all : List Finding
  deriving DecidableEq, Repr, Inhabited

namespace ReviewResult

def hasBlocking (r : ReviewResult) : Bool := !r.blocking.isEmpty

def isClean (r : ReviewResult) : Bool := r.all.isEmpty

/-- The findings without repetitions; the first of each kind stays. -/
def distinct : List Finding → List Finding.Identity → List Finding
  | [], _ => []
  | f :: fs, seen =>
    if seen.contains f.identity then distinct fs seen
    else f :: distinct fs (f.identity :: seen)

/-- The merged result of a list of findings. -/
def ofFindings (findings : List Finding) : ReviewResult :=
  let ordered := (distinct findings []).mergeSort Finding.precedes
  { blocking := ordered.filter (·.severity = .blocking)
    warnings := ordered.filter (·.severity = .warning)
    all := ordered }

/-- Merges findings, unless the line of one cannot be written. -/
def merge (findings : List Finding) : Except Fault ReviewResult :=
  if findings.all Finding.isWritable then .ok (ofFindings findings)
  else .error (.unwritable .tooManyDigits)

end ReviewResult

end PullReview
