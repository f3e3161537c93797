import PullReview.Comments.Comment
import PullReview.Comments.Store

/-!
# Bringing the comments up to date

A pull request has one summary comment of this program, updated in place by
every later run, and one line comment per place of a blocking finding. Places
that already have one are skipped. A line comment that the code host refuses is
counted and left; any other fault ends the run.
-/

namespace PullReview

inductive SummaryAction where
  | none
  | created
  | updated
  deriving DecidableEq, Repr, Inhabited

def SummaryAction.name : SummaryAction → String
  | .none => "none"
  | .created => "created"
  | .updated => "updated"

/-- What was done to the comments of a pull request. -/
structure ReconcileReport where
  summary : SummaryAction := .none
  created : Nat := 0
  skipped : Nat := 0
  failed : Nat := 0
  deriving DecidableEq, Repr, Inhabited

namespace Reconcile

variable {σ : Type}

def logFor (pr : PullRequest) : Logger :=
  Logger.bind {} [("repository", .str pr.fullName), ("pull_number", .int pr.number)]

/-- Updates the summary comment that is there, or creates it. -/
def upsertSummary (store : CommentStore σ) (body : String) (pr : PullRequest) :
    Act σ SummaryAction := do
  let comments ← store.issueComments pr
  let found ← liftM (Comment.firstMarked comments)
  match found with
  | some comment =>
    match comment.get? "id" with
    | none => throw (.missingKey "id")
    | some id =>
      (logFor pr).info s!"Updating existing summary comment (id: {id.display})"
      let _ ← store.updateIssueComment pr id body
      return .updated
  | none =>
    (logFor pr).info "Creating summary comment"
    let _ ← store.createIssueComment pr body
    return .created

/-- The comment for a blocking finding on a line. -/
def lineComment (f : Finding) (line : Int) : LineComment where
  path := f.file
  line := line
  body := marker ++ "\n" ++ f.commentText

/-- Puts comments on the lines of findings, one after another; `seen` are the
places that have one. -/
def postLineComments (store : CommentStore σ) (pr : PullRequest) :
    List Finding → List Comment.Location → ReconcileReport → Act σ ReconcileReport
  | [], _, report => return report
  | f :: fs, seen, report =>
    match f.line with
    | none => postLineComments store pr fs seen report
    | some line => do
      let place : Comment.Location := (.str f.file, line)
      if seen.contains place then
        (logFor pr).debug s!"Line comment already present, skipping: {f.file}:{line}"
        postLineComments store pr fs seen { report with skipped := report.skipped + 1 }
      else
        match ← Act.attempt (store.createReviewComment pr (lineComment f line)) with
        | .ok _ =>
          (logFor pr).info s!"Created line comment: {f.file}:{line}"
          postLineComments store pr fs (place :: seen) { report with created := report.created + 1 }
        | .error (.api cause) =>
          (logFor pr).warning <|
            s!"Failed to create line comment at {f.file}:{line} " ++
              s!"(status={cause.status}): {cause.message}"
          postLineComments store pr fs seen { report with failed := report.failed + 1 }
        | .error fault => throw fault

/-- Brings the comments of a pull request in line with a result. -/
def reconcile (store : CommentStore σ) (gap : Int) (result : ReviewResult) (pr : PullRequest) :
    Act σ ReconcileReport := do
  let action ← upsertSummary store (result.summary gap) pr
  let report : ReconcileReport := { summary := action }
  if result.blocking.isEmpty then return report
  let comments ← store.reviewComments pr
  let seen ← liftM (Comment.ownLocations comments)
  postLineComments store pr result.blocking seen report

end Reconcile

end PullReview
