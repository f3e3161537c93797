import PullReview.Comments.Store
import PullReview.GitHub.Token

/-!
# Talking to the code host

Every request carries a token. One that fails for a passing reason (the
connection, or a status that says so) is sent again after a pause, up to a
limit; the pause is the one that the response asks for, or else doubles from
try to try. Listings are read page by page until a page is not full, and one
whose pages are full for ever is never read to its end.
-/

namespace PullReview.GitHub

/-- The pause before the second try. It is doubled from try to try; whole
seconds are doubled exactly. -/
inductive Backoff where
  | whole (seconds : Int)
  | fractional (seconds : Double)

/-- How a client is set up. -/
structure Client where
  base : Base
  access : Access
  maxRetries : Int := 3
  backoff : Backoff := .fractional (.ofRatio false 1 1)
  /-- whether the connection is the client's own and sends the usual headers -/
  ownsConnection : Bool := true
  reading : Reading := {}
  /-- a listing that goes on beyond this many pages counts as endless -/
  pageLimit : Nat := 1000000000

/-- What a client keeps between requests. -/
structure ClientState where
  token : Option InstallationToken := none
  closed : Bool := false

/-- Decides whether a private key can sign. -/
abbrev Signer := List Char → Bool

/-- All that a client works with. -/
structure Session (σ : Type) where
  client : Client
  transport : Transport σ
  signs : Signer
  state : Part σ ClientState

def usualAccept : String := "application/vnd.github+json"
def usualVersion : String := "2022-11-28"
def pageSize : Nat := 100

/-- Statuses that may pass by themselves. -/
def isPassing (status : Int) : Bool := [429, 500, 502, 503, 504].contains status

/-- The fault of a header that holds characters outside ASCII. -/
def headerFault? (value : String) : Option Fault :=
  let cs := value.toList
  let isForeign (c : Char) : Bool := 0x80 ≤ c.toNat
  let front := (cs.takeWhile (!isForeign ·)).length
  match cs.drop front with
  | [] => none
  | c :: rest =>
    let run := (rest.takeWhile isForeign).length
    let reason := "ordinal not in range(128)"
    let n := c.toNat
    let shown := String.ofList <|
      if n ≤ 0xff then '\\' :: 'x' :: Text.hexText 2 n
      else if n ≤ 0xffff then '\\' :: 'u' :: Text.hexText 4 n
      else '\\' :: 'U' :: Text.hexText 8 n
    some (.unencodable (if run = 0 then
        s!"'ascii' codec can't encode character '{shown}' in position {front}: {reason}"
      else
        s!"'ascii' codec can't encode characters in position {front}-{front + run}: {reason}"))

/-- The request for a URL below the base address, unless its address, its
credentials or its body cannot be sent. -/
def Client.request (c : Client) (method : Method) (url : String) (params : List (String × String))
    (authorization : Authorization) (accept : String) (version : Option String)
    (body : Option Json) : Except Fault HttpRequest := do
  let address ← c.base.address url params
  let token := match authorization with
    | .bearer token => token
    | _ => ""
  for value in ["Bearer " ++ token, address.place] do
    if let some fault := headerFault? value then throw fault
  if let some flaw := body.bind (·.flaw? (c.reading.depth + 1)) then throw (.unwritable flaw)
  return {
    method := method
    address := address
    authorization := (authorizationIn? address).getD authorization
    accept := accept
    apiVersion := version
    body := body }

/-- The fault of a response that sends the client on to what is no address. -/
def redirectFault? (request : HttpRequest) (response : HttpResponse) : Option Fault := do
  match Url.Reference.ofString (← response.redirection?) with
  | .error cause => some (.badRedirect cause)
  | .ok r =>
    let path := r.path.toList
    let isBehindHost := r.scheme ≠ "" && r.host = "" && request.address.host ≠ ""
    if isBehindHost && !path.isEmpty && path.head? ≠ some '/' then
      some (.address .pathBehindHost)
    else none

namespace Session

variable {σ : Type}

def stateNow (s : Session σ) : Act σ ClientState := do return s.state.get (← get).outside

def setState (s : Session σ) (st : ClientState) : Act σ Unit :=
  modify fun w => { w with outside := s.state.set w.outside st }

/-- Sends a request. The response to an address without a scheme is of no use. -/
def send (s : Session σ) (request : HttpRequest) : Act σ HttpResponse := do
  let response ← liftM (← s.transport.send request).decoded
  if !request.address.hasType then throw (.data (.noScheme request.address.text))
  if let some fault := redirectFault? request response then throw fault
  return response

/-- Gets a new token for an installation and keeps it. -/
def mintToken (s : Session σ) (credentials : AppCredentials) : Act σ Json := do
  let st ← s.stateNow
  if st.closed then throw (.misuse (.noMember "NoneType" "post"))
  let url := s!"/app/installations/{credentials.installationId}/access_tokens"
  let claims ← liftM (claimsAt credentials (← s.transport.now))
  if !s.signs (normalKey credentials.privateKey) then
    throw (.api ⟨"Failed to encode JWT. Check that GITHUB_PRIVATE_KEY is a valid RSA private key " ++
      "in PEM format.", 0, .null⟩)
  let request ← liftM (s.client.request .post url [] (.app claims) usualAccept
    (some usualVersion) none)
  let response ← s.send request
  let token ← liftM (tokenOfResponse s.client.reading url response)
  s.setState { st with token := some token }
  return token.token

/-- The token for a request. -/
def token (s : Session σ) : Act σ Json := do
  match s.client.access with
  | .token token => return .str token
  | .app credentials =>
    match (← s.stateNow).token with
    | none => s.mintToken credentials
    | some kept =>
      let active ← liftM (kept.isActive InstallationToken.usualSkew (← s.transport.now))
      if active then return kept.token else s.mintToken credentials

/-- Twice the pause of the try before, from the set pause on. -/
def backoffAfter (c : Client) (tried : Nat) : Except Fault Double :=
  let factor := Nat.pow 2 tried
  let pause := match c.backoff with
    | .whole seconds => Double.ofInt? (seconds * factor)
    | .fractional seconds => (Double.ofInt? factor).map seconds.mul
  match pause with
  | some x => .ok x
  | none => .error (.outOfRange "int too large to convert to float")

/-- The pause before the next try: the one that a response asks for in digits,
or else the doubled one. -/
def pauseAfter (c : Client) (tried : Nat) (response : Option HttpResponse) :
    Except Fault Double :=
  match response.bind (·.header? "Retry-After") with
  | none => backoffAfter c tried
  | some wanted =>
    if Text.allDigitKind wanted.toList then
      match Double.ofDigits? wanted.toList with
      | some x => .ok x
      | none => .error (.data (.badDelay wanted))
    else backoffAfter c tried

/-- The refusal of a request. -/
def refusal (how : Reading) (url : String) (r : HttpResponse) : Fault :=
  match r.detail how.depth with
  | .ok detail =>
    .api ⟨s!"GitHub API request to {url} failed with status {r.status}.", r.status, detail⟩
  | .error fault => fault

/-- Sends a request until it is answered for good, with at most `retries` more
tries; `tried` counts those that failed. -/
def exchange (s : Session σ) (url : String) (request : HttpRequest) :
    Nat → Nat → Act σ HttpResponse
  | retries, tried => do
    let log : Logger := {}
    let method := request.method.name
    let pauseFor (response : Option HttpResponse) : Act σ Unit := do
      s.transport.pause (← liftM (pauseAfter s.client tried response))
    match ← Act.attempt (s.send request) with
    | .ok response =>
      if response.status < 400 then return response
      else if !isPassing response.status then throw (refusal s.client.reading url response)
      else match retries with
        | 0 => throw (refusal s.client.reading url response)
        | left + 1 =>
          log.warning s!"GitHub API {method} {url} returned {response.status}; retrying"
          pauseFor (some response)
          exchange s url request left (tried + 1)
    | .error fault =>
      if !fault.isTransport then throw fault
      else match retries with
        | 0 => throw (.api ⟨s!"GitHub API request to {url} failed: {fault.message}", 0, .null⟩)
        | left + 1 =>
          log.warning <|
            s!"GitHub API transport error on {method} {url}: {fault.message}; retrying"
          pauseFor none
          exchange s url request left (tried + 1)

/-- One request with its retries, under a fresh or kept token. -/
def request (s : Session σ) (method : Method) (url : String) (params : List (String × String))
    (body : Option Json) : Act σ HttpResponse := do
  let token ← s.token
  if (← s.stateNow).closed then throw (.misuse (.noMember "NoneType" "request"))
  let own := s.client.ownsConnection
  let request ← liftM (s.client.request method url params (.bearer token.display)
    (if own then usualAccept else "*/*") (if own then some usualVersion else none) body)
  s.exchange url request s.client.maxRetries.toNat 0

/-- Reads a listing from a page on. Behind so many full pages there is no end in sight. -/
def pages (s : Session σ) (url : String) : Nat → Nat → Act σ (List Json)
  | 0, _ => throw .endless
  | fuel + 1, page => do
    let params := [("per_page", toString pageSize), ("page", toString page)]
    let response ← s.request .get url params none
    match ← liftM (response.json s.client.reading.depth) with
    | .arr batch =>
      if batch.length < pageSize then return batch
      return batch ++ (← pages s url fuel (page + 1))
    | other => throw (.api ⟨s!"Unexpected response while listing {url}.", response.status, other⟩)

/-- A whole listing. -/
def listing (s : Session σ) (url : String) : Act σ (List Json) :=
  s.pages url s.client.pageLimit 1

/-- The address below which a pull request or a repository lives. -/
def repoUrl (pr : PullRequest) : String := s!"/repos/{pr.owner}/{pr.repo}"

def issueCommentsUrl (pr : PullRequest) : String := s!"{repoUrl pr}/issues/{pr.number}/comments"

def reviewCommentsUrl (pr : PullRequest) : String := s!"{repoUrl pr}/pulls/{pr.number}/comments"

/-- Sends a body and reads the answer. -/
def submit (s : Session σ) (method : Method) (url : String) (body : List (String × Json)) :
    Act σ Json := do
  let response ← s.request method url [] (some (.obj body))
  liftM (response.json s.client.reading.depth)

/-- The code host as a store of comments. -/
def store (s : Session σ) : CommentStore σ where
  issueComments pr := s.listing (issueCommentsUrl pr)
  createIssueComment pr body := s.submit .post (issueCommentsUrl pr) [("body", .str body)]
  updateIssueComment pr id body :=
    s.submit .patch s!"{repoUrl pr}/issues/comments/{id.display}" [("body", .str body)]
  reviewComments pr := s.listing (reviewCommentsUrl pr)
  createReviewComment pr c := s.submit .post (reviewCommentsUrl pr) [
    ("body", .str c.body), ("commit_id", pr.head), ("path", .str c.path),
    ("line", .int c.line), ("side", .str c.side)]

/-- Ends the use of the client's own connection. -/
def close (s : Session σ) : Act σ Unit := do
  if s.client.ownsConnection then
    s.setState { (← s.stateNow) with closed := true }

end Session

end PullReview.GitHub
