import PullReview.Comments.Store

/-!
# A comment store in memory

The ledger holds the comments of one pull request. New comments get the next
free number and a bot as their author; an update replaces the body of the first
comment with that number. Every use is noted, and a use can be made to fail
before it has any effect.
-/

namespace PullReview.Rehearsal

/-- A use of the store. -/
inductive StoreCall where
  | listIssueComments
  | createIssueComment (body : String)
  | updateIssueComment (id : Json) (body : String)
  | listReviewComments
  | createReviewComment (comment : LineComment) (head : Json)

/-- Which uses fail: all of a kind, the comments on certain paths, or single uses. -/
structure Refusals where
  listIssueComments : Option Fault := none
  createIssueComment : Option Fault := none
  updateIssueComment : Option Fault := none
  listReviewComments : Option Fault := none
  createReviewComment : Option Fault := none
  onPath : List (String × Fault) := []
  /-- by how many uses were noted before -/
  atUse : Nat → Option Fault := fun _ => none

/-- The fault of all uses of a kind, or on a path. -/
def Refusals.ofKind (r : Refusals) : StoreCall → Option Fault
  | .listIssueComments => r.listIssueComments
  | .createIssueComment _ => r.createIssueComment
  | .updateIssueComment _ _ => r.updateIssueComment
  | .listReviewComments => r.listReviewComments
  | .createReviewComment c _ => r.createReviewComment.or (r.onPath.lookup c.path)

/-- The fault that a use fails with when `count` uses were noted before. -/
def Refusals.of (r : Refusals) (count : Nat) (call : StoreCall) : Option Fault :=
  (r.ofKind call).or (r.atUse count)

structure Ledger where
  issueComments : List Json := []
  reviewComments : List Json := []
  nextId : Int := 1001
  refusals : Refusals := {}
  calls : Array StoreCall := #[]

namespace Ledger

/-- The author of every comment made here. -/
def author : Json := .obj [("type", .str "Bot")]

/-- A comment on the whole as it is listed. -/
def listedIssue (id : Int) (body : String) : Json :=
  .obj [("id", .int id), ("user", author), ("body", .str body)]

/-- A line comment as it is listed. -/
def listedReview (id : Int) (comment : LineComment) : Json :=
  .obj [
    ("id", .int id), ("user", author), ("path", .str comment.path),
    ("line", .int comment.line), ("body", .str comment.body)]

/-- Sets the body of the first comment with that number. -/
def updateBody (id : Json) (body : String) : List Json → Option (Json × List Json)
  | [] => none
  | c :: cs =>
    match c with
    | .obj members =>
      if (c.get? "id").any (· == id) then
        let c := Json.obj (Json.setMember members "body" (.str body))
        some (c, c :: cs)
      else (updateBody id body cs).map fun (found, cs) => (found, c :: cs)
    | _ => (updateBody id body cs).map fun (found, cs) => (found, c :: cs)

/-- What a use does to the ledger, and what it gives. -/
def perform (l : Ledger) : StoreCall → Except Fault Json × Ledger
  | .listIssueComments => (.ok (.arr l.issueComments), l)
  | .createIssueComment body =>
    let c := listedIssue l.nextId body
    (.ok c, { l with issueComments := l.issueComments ++ [c], nextId := l.nextId + 1 })
  | .updateIssueComment id body =>
    match updateBody id body l.issueComments with
    | some (c, cs) => (.ok c, { l with issueComments := cs })
    | none => (.error (.api ⟨"not found", 404, .null⟩), l)
  | .listReviewComments => (.ok (.arr l.reviewComments), l)
  | .createReviewComment comment _ =>
    let c := listedReview l.nextId comment
    (.ok c, { l with reviewComments := l.reviewComments ++ [c], nextId := l.nextId + 1 })

/-- The use is noted. -/
def noted (l : Ledger) (call : StoreCall) : Ledger := { l with calls := l.calls.push call }

/-- One use: it is noted, then refused or performed. -/
def use (l : Ledger) (call : StoreCall) : Except Fault Json × Ledger :=
  match l.refusals.of l.calls.size call with
  | some fault => (.error fault, l.noted call)
  | none => (l.noted call).perform call

end Ledger

/-- The comments in a list value. -/
def commentsIn : Json → List Json
  | .arr items => items
  | _ => []

/-- The ledger as a comment store. -/
def ledgerStore {σ : Type} (part : Part σ Ledger) : CommentStore σ :=
  let use (call : StoreCall) : Act σ Json := part.step fun l => l.use call
  { issueComments := fun _ => commentsIn <$> use .listIssueComments
    createIssueComment := fun _ body => use (.createIssueComment body)
    updateIssueComment := fun _ id body => use (.updateIssueComment id body)
    reviewComments := fun _ => commentsIn <$> use .listReviewComments
    createReviewComment := fun pr c => use (.createReviewComment c pr.head) }

end PullReview.Rehearsal
