import PullReview.PullRequest
import PullReview.World

/-!
# Where comments are kept

A comment store lists and changes the comments of a pull request: those on the
whole of it, and those on lines of its files.
-/

namespace PullReview

/-- A comment to be put on a line of the new side of a file. -/
structure LineComment where
  path : String
  line : Int
  side : String := "RIGHT"
  body : String
  deriving DecidableEq, Repr

structure CommentStore (σ : Type) where
  issueComments : PullRequest → Act σ (List Json)
  createIssueComment : PullRequest → String → Act σ Json
  updateIssueComment : PullRequest → Json → String → Act σ Json
  reviewComments : PullRequest → Act σ (List Json)
  createReviewComment : PullRequest → LineComment → Act σ Json

end PullReview
