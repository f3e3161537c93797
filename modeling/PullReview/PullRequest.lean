import PullReview.Fault

/-!
# Pull requests

A pull request is known by its repository, in the form owner and name, by its
number, and by the revision at its head.
-/

namespace PullReview

structure PullRequest where
  owner : String
  repo : String
  number : Int
  head : Json
  deriving Inhabited

namespace PullRequest

/-- The text in front of the first slash and the one behind it. -/
def splitName (cs : List Char) : Option (List Char × List Char) :=
  match cs.dropWhile (· ≠ '/') with
  | [] => none
  | _ :: repo => some (cs.takeWhile (· ≠ '/'), repo)

/-- The pull request of a repository named `owner/repo`. -/
def ofFullName (fullName : String) (number : Int) (head : Json) : Except Fault PullRequest :=
  match splitName fullName.toList with
  | some (owner, repo) => .ok ⟨String.ofList owner, String.ofList repo, number, head⟩
  | none => .error (.data (.badRepository fullName))

def fullName (pr : PullRequest) : String := pr.owner ++ "/" ++ pr.repo

end PullRequest

end PullReview
