import Mathlib
import PullReview.GitHub.Client
import PullReview.Proofs.GitHub.Address
import PullReview.Rehearsal.Ledger
import PullReview.Rehearsal.Server

/-!
# A code host

The code host keeps the comments of one pull request and serves requests for them: a
listing is given page by page, a new comment goes behind those there are, and an update
replaces the body of the comment with the number. Before a request is really served some
tries may go wrong in passing, without any effect; and line comments on certain paths are
refused.

What a request is for stands in its address and its body. Addresses that were made for a
resource and for a page read back as these (`segmentsBelow?_segmentPath`, `pageOf?_query`).
-/

namespace PullReview.GitHub

open Text Url Rehearsal

/-- What a request is for. -/
inductive Resource where
  | issueComments
  | issueComment (id : Int)
  | reviewComments

/-- What a code host goes by. -/
structure HostRules where
  /-- segments of the path in front of its own -/
  front : List (List Char)
  pr : PullRequest
  /-- how a page of comments is written -/
  write : List Json → ByteArray
  /-- what a change is answered with -/
  receipt : HttpRequest → ByteArray
  /-- how a line comment on a path is refused -/
  refusal? : String → Option HttpResponse

structure CodeHost where
  issueComments : List Json
  reviewComments : List Json
  nextId : Int
  /-- what goes wrong before each of the requests to come is served -/
  hiccups : List (List Reply) := []

/-! ## Addresses read back -/

/-- The segments of a path behind those in front. -/
def segmentsBelow? (front : List (List Char)) (path : List Char) : Option (List String) :=
  match splitAtEach '/' path with
  | [] :: segments =>
    if front.isPrefixOf segments then some ((segments.drop front.length).map String.ofList)
    else none
  | _ => none

/-- The resource of a pull request that segments name. -/
def resource? (pr : PullRequest) : List String → Option Resource
  | ["repos", owner, repo, kind, fifth, sixth] =>
    if owner = pr.owner ∧ repo = pr.repo then
      if fifth = toString pr.number ∧ sixth = "comments" then
        if kind = "issues" then some .issueComments
        else if kind = "pulls" then some .reviewComments
        else none
      else if kind = "issues" ∧ fifth = "comments" then sixth.toInt?.map .issueComment
      else none
    else none
  | _ => none

def HostRules.resource? (rules : HostRules) (address : Reference) : Option Resource := do
  GitHub.resource? rules.pr (← segmentsBelow? rules.front address.path.toList)

/-- The number that a part of a query gives for a parameter. -/
def valueIn? (name : String) (part : List Char) : Option Nat :=
  match splitAtEach '=' part with
  | [key, value] => if String.ofList key = name then (String.ofList value).toNat? else none
  | _ => none

/-- A number among the parameters of a query. -/
def parameter? (name : String) (query : List Char) : Option Nat :=
  (splitAtEach '&' query).findSome? (valueIn? name)

/-- How many comments a page has, and which page it is. -/
def pageOf? (query : List Char) : Option (Nat × Nat) := do
  return (← parameter? "per_page" query, ← parameter? "page" query)

/-! ## Serving -/

/-- The comments on a page. Pages are numbered from one. -/
def pageOf (size page : Nat) (comments : List Json) : List Json :=
  (comments.drop (size * (page - 1))).take size

/-- The page behind `k` full ones. -/
theorem pageOf_isInfix (size k : Nat) (comments : List Json) :
    pageOf size (k + 1) comments <:+: comments :=
  (List.take_prefix _ _).isInfix.trans (List.drop_suffix _ _).isInfix

theorem pageOf_append (size k : Nat) (comments : List Json) :
    pageOf size (k + 1) comments ++ comments.drop (size * (k + 1))
      = comments.drop (size * k) := by
  unfold pageOf
  rw [Nat.add_sub_cancel, Nat.mul_succ, ← List.drop_drop, List.take_append_drop]

theorem length_pageOf (size k : Nat) (comments : List Json) :
    (pageOf size (k + 1) comments).length = min size (comments.length - size * k) := by
  unfold pageOf
  rw [List.length_take, List.length_drop, Nat.add_sub_cancel]

namespace CodeHost

def notFound : HttpResponse := { status := 404 }

def unprocessable : HttpResponse := { status := 422 }

/-- The page of a listing that a query asks for. -/
def page (rules : HostRules) (request : HttpRequest) (comments : List Json) : HttpResponse :=
  match request.address.query.bind fun query => pageOf? query.toList with
  | some (size, number) => { status := 200, content := rules.write (pageOf size number comments) }
  | none => unprocessable

/-- The comments that are listed for a resource. -/
def listing? (h : CodeHost) : Resource → Option (List Json)
  | .issueComments => some h.issueComments
  | .reviewComments => some h.reviewComments
  | .issueComment _ => none

/-- A comment on the whole is made. -/
def addIssueComment (h : CodeHost) (body : String) : CodeHost :=
  { h with
    issueComments := h.issueComments ++ [Ledger.listedIssue h.nextId body]
    nextId := h.nextId + 1 }

/-- A comment on a line is made. -/
def addReviewComment (h : CodeHost) (comment : LineComment) : CodeHost :=
  { h with
    reviewComments := h.reviewComments ++ [Ledger.listedReview h.nextId comment]
    nextId := h.nextId + 1 }

/-- Serves a request. -/
def serve (rules : HostRules) (h : CodeHost) (request : HttpRequest) : HttpResponse × CodeHost :=
  let member (name : String) : Json := (request.body.getD .null).getD name
  let done (status : Int) : HttpResponse := { status := status, content := rules.receipt request }
  match request.method, rules.resource? request.address with
  | .get, some resource =>
    match h.listing? resource with
    | some comments => (page rules request comments, h)
    | none => (notFound, h)
  | .post, some .issueComments =>
    match member "body" with
    | .str body => (done 201, h.addIssueComment body)
    | _ => (unprocessable, h)
  | .patch, some (.issueComment id) =>
    match member "body" with
    | .str body =>
      match Ledger.updateBody (.int id) body h.issueComments with
      | some (_, comments) => (done 200, { h with issueComments := comments })
      | none => (notFound, h)
    | _ => (unprocessable, h)
  | .post, some .reviewComments =>
    match member "commit_id", member "path", member "line", member "side", member "body" with
    | .str _, .str path, .int line, .str side, .str body =>
      match rules.refusal? path with
      | some refusal => (refusal, h)
      | none => (done 201, h.addReviewComment ⟨path, line, side, body⟩)
    | _, _, _, _, _ => (unprocessable, h)
  | _, _ => (notFound, h)

/-- What goes wrong before the next request is served. -/
def trouble (h : CodeHost) : List Reply := h.hiccups.headD []

/-- The code host once that is over. -/
def settled (h : CodeHost) : CodeHost := { h with hiccups := h.hiccups.tail }

/-- Answers a try: with what goes wrong next, or by serving the request. -/
def answer (rules : HostRules) (h : CodeHost) (request : HttpRequest) :
    Except Fault HttpResponse × CodeHost :=
  match h.trouble with
  | [] => let (response, h) := h.settled.serve rules request; (.ok response, h)
  | .responds response :: more => (.ok response, { h with hiccups := more :: h.hiccups.tail })
  | .fails fault :: more => (.error fault, { h with hiccups := more :: h.hiccups.tail })

section Answer

variable {rules : HostRules} {h : CodeHost} {request : HttpRequest}

/-- When nothing goes wrong any more the request is served. -/
theorem answer_settled (htrouble : h.trouble = []) :
    h.answer rules request
      = (.ok (h.settled.serve rules request).1, (h.settled.serve rules request).2) := by
  unfold answer
  rw [htrouble]

theorem answer_responds {response : HttpResponse} {more : List Reply}
    (htrouble : h.trouble = .responds response :: more) :
    h.answer rules request = (.ok response, { h with hiccups := more :: h.hiccups.tail }) := by
  unfold answer
  rw [htrouble]

theorem answer_fails {fault : Fault} {more : List Reply}
    (htrouble : h.trouble = .fails fault :: more) :
    h.answer rules request = (.error fault, { h with hiccups := more :: h.hiccups.tail }) := by
  unfold answer
  rw [htrouble]

end Answer

section Serve

variable {rules : HostRules} {h : CodeHost} {request : HttpRequest}

theorem serve_page {resource : Resource} {comments : List Json}
    (hmethod : request.method = .get) (hresource : rules.resource? request.address = some resource)
    (hlisted : h.listing? resource = some comments) {query : String}
    (hquery : request.address.query = some query) {size number : Nat}
    (hpage : pageOf? query.toList = some (size, number)) :
    h.serve rules request
      = ({ status := 200, content := rules.write (pageOf size number comments) }, h) := by
  simp only [serve, hmethod, hresource, hlisted, page, hquery, Option.bind_some, hpage]

theorem serve_addIssueComment (hmethod : request.method = .post)
    (hresource : rules.resource? request.address = some .issueComments) {body : String}
    (hbody : request.body = some (.obj [("body", .str body)])) :
    h.serve rules request
      = ({ status := 201, content := rules.receipt request }, h.addIssueComment body) := by
  have hmember : (Json.obj [("body", .str body)]).getD "body" = .str body := rfl
  simp only [serve, hmethod, hresource, hbody, Option.getD_some, hmember]

theorem serve_updateIssueComment {id : Int} (hmethod : request.method = .patch)
    (hresource : rules.resource? request.address = some (.issueComment id)) {body : String}
    (hbody : request.body = some (.obj [("body", .str body)])) {found : Json}
    {comments : List Json}
    (hupdate : Ledger.updateBody (.int id) body h.issueComments = some (found, comments)) :
    h.serve rules request
      = ({ status := 200, content := rules.receipt request },
          { h with issueComments := comments }) := by
  have hmember : (Json.obj [("body", .str body)]).getD "body" = .str body := rfl
  simp only [serve, hmethod, hresource, hbody, Option.getD_some, hmember, hupdate]

/-- What is sent to make a comment on a line. -/
def reviewBody (sha : String) (comment : LineComment) : List (String × Json) := [
  ("body", .str comment.body), ("commit_id", .str sha), ("path", .str comment.path),
  ("line", .int comment.line), ("side", .str comment.side)]

theorem serve_addReviewComment (hmethod : request.method = .post)
    (hresource : rules.resource? request.address = some .reviewComments) {sha : String}
    {comment : LineComment} (hbody : request.body = some (.obj (reviewBody sha comment))) :
    h.serve rules request
      = match rules.refusal? comment.path with
        | some refusal => (refusal, h)
        | none =>
          ({ status := 201, content := rules.receipt request }, h.addReviewComment comment) := by
  have hb : (Json.obj (reviewBody sha comment)).getD "body" = .str comment.body := rfl
  have hs : (Json.obj (reviewBody sha comment)).getD "commit_id" = .str sha := rfl
  have hp : (Json.obj (reviewBody sha comment)).getD "path" = .str comment.path := rfl
  have hl : (Json.obj (reviewBody sha comment)).getD "line" = .int comment.line := rfl
  have hd : (Json.obj (reviewBody sha comment)).getD "side" = .str comment.side := rfl
  simp only [serve, hmethod, hresource, hbody, Option.getD_some, hb, hs, hp, hl, hd]

end Serve

end CodeHost

/-! ## What addresses read back as -/

theorem segmentsBelow?_segmentPath {front : List (List Char)} {names : List String}
    (h : ∀ s ∈ front ++ names.map String.toList, '/' ∉ s) :
    segmentsBelow? front (segmentPath (front ++ names.map String.toList)) = some names := by
  have hfront : front.isPrefixOf (front ++ names.map String.toList) = true :=
    List.isPrefixOf_iff_prefix.mpr (List.prefix_append _ _)
  have hnames : (names.map String.toList).map String.ofList = names := by
    rw [List.map_map]
    exact (List.map_congr_left fun s _ => String.ofList_toList).trans (List.map_id _)
  unfold segmentsBelow?
  rw [splitAtEach_segmentPath h]
  dsimp only
  rw [if_pos hfront, List.drop_left, hnames]

theorem numberText_ne {n : Int} : toString n ≠ "comments" := by
  intro h
  have hc : 'c' ∈ (toString n).toList := by
    rw [h]
    decide
  rcases mem_intText hc with hsign | hdigit
  · exact absurd hsign (by decide)
  · exact absurd hdigit (by decide)

section Resources

variable (pr : PullRequest)

theorem resource?_issueComments :
    resource? pr ["repos", pr.owner, pr.repo, "issues", toString pr.number, "comments"]
      = some .issueComments := by
  simp [resource?]

theorem resource?_reviewComments :
    resource? pr ["repos", pr.owner, pr.repo, "pulls", toString pr.number, "comments"]
      = some .reviewComments := by
  simp [resource?]

theorem resource?_issueComment (id : Int) :
    resource? pr ["repos", pr.owner, pr.repo, "issues", "comments", toString id]
      = some (.issueComment id) := by
  have hnotListing : ¬ ("comments" = toString pr.number ∧ toString id = "comments") :=
    fun h => numberText_ne h.2
  have hread : (toString id).toInt? = some id := Int.toInt?_repr id
  simp only [resource?, and_self, if_true, if_neg hnotListing, hread, Option.map_some]

end Resources

/-- A part reads back as the parameter and its number. -/
theorem valueIn?_number {name : String} (hname : '=' ∉ name.toList) (other : String) (n : Nat) :
    valueIn? other (name.toList ++ '=' :: (toString n).toList)
      = if name = other then some n else none := by
  have hdigits : '=' ∉ (toString n).toList := fun h => absurd (mem_natText h) (by decide)
  have hread : (toString n).toNat? = some n := Nat.toNat?_repr n
  unfold valueIn?
  rw [splitAtEach_append _ _ _ hname, splitAtEach_self hdigits]
  dsimp only
  rw [String.ofList_toList, String.ofList_toList, hread]

/-- The query of a page reads back as the page. -/
theorem pageOf?_query (page : Nat) :
    pageOf? (queryOf (pageParams page)).toList = some (pageSize, page) := by
  have hparts : splitAtEach '&' ("per_page=100&page=" ++ toString page).toList
      = ["per_page".toList ++ '=' :: (toString pageSize).toList,
          "page".toList ++ '=' :: (toString page).toList] := by
    have hcut : ("per_page=100&page=" ++ toString page).toList
        = "per_page=100".toList ++ '&' :: ("page=".toList ++ (toString page).toList) := by
      rw [String.toList_append]
      rfl
    have hlast : '&' ∉ "page=".toList ++ (toString page).toList := by
      intro h
      rcases List.mem_append.mp h with h | h
      · exact absurd h (by decide)
      · exact absurd (mem_natText h) (by decide)
    rw [hcut, splitAtEach_append _ _ _ (by decide), splitAtEach_self hlast]
    rfl
  have hsize : parameter? "per_page" ("per_page=100&page=" ++ toString page).toList
      = some pageSize := by
    unfold parameter?
    rw [hparts, List.findSome?_cons, valueIn?_number (by decide), if_pos rfl]
  have hpage : parameter? "page" ("per_page=100&page=" ++ toString page).toList = some page := by
    unfold parameter?
    rw [hparts, List.findSome?_cons, valueIn?_number (by decide), if_neg (by decide)]
    dsimp only
    rw [List.findSome?_cons, valueIn?_number (by decide), if_pos rfl]
  unfold pageOf?
  rw [queryOf_page, hsize, hpage]
  rfl

end PullReview.GitHub
