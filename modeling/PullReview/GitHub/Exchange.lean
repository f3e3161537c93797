import PullReview.Compression.Container
import PullReview.GitHub.ContentType
import PullReview.Json.Bytes
import PullReview.Time.Stamp
import PullReview.Url.Reference
import PullReview.World

/-!
# Requests and responses

What goes over the wire between the program and the code host, as far as it
matters: a request with its target, credentials and body, and a response with
status, headers and content.
-/

namespace PullReview

inductive Method where
  | get
  | post
  | patch
  deriving DecidableEq, Repr

def Method.name : Method → String
  | .get => "GET"
  | .post => "POST"
  | .patch => "PATCH"

/-- What an app claims about itself when it asks for a token. -/
structure AppClaims where
  issuedAt : Int
  expiresAt : Int
  issuer : String
  deriving DecidableEq, Repr

inductive Authorization where
  | bearer (token : String)
  | app (claims : AppClaims)
  | basic (credentials : String)
  deriving DecidableEq, Repr

structure HttpRequest where
  method : Method
  address : Url.Reference
  authorization : Authorization
  accept : String
  apiVersion : Option String
  body : Option Json

structure HttpResponse where
  status : Int
  headers : List (String × String) := []
  content : ByteArray := ByteArray.empty

/-- What content went through before it was sent. -/
inductive Coding where
  | identity
  | gzip
  | deflate

/-- A coding by its name; others are let pass. -/
def Coding.ofName? (name : String) : Option Coding :=
  match name with
  | "identity" => some .identity
  | "gzip" => some .gzip
  | "deflate" => some .deflate
  | _ => none

def Coding.undo : Coding → ByteArray → Except Compression.Problem ByteArray
  | .identity => .ok
  | .gzip => Compression.inflated .gzip
  | .deflate => Compression.inflatedAnyway

namespace HttpResponse

/-- The values of a header, whatever the case of its name. -/
def values (r : HttpResponse) (name : String) : List String :=
  let lower (s : String) : List Char := s.toList.map Char.toLower
  (r.headers.filter fun h => lower h.1 = lower name).map (·.2)

/-- The values of a header as one. -/
def header? (r : HttpResponse) (name : String) : Option String :=
  match r.values name with
  | [] => none
  | values => some (Text.join ", " values)

/-- The codings of the content, in the order in which they were applied. -/
def codings (r : HttpResponse) : List Coding :=
  let names := (r.values "content-encoding").flatMap fun v => Text.splitAtEach ',' v.toList
  names.filterMap fun name => Coding.ofName? (String.ofList ((Text.trim name).map Char.toLower))

/-- The response with its content as it was before it was coded. -/
def decoded (r : HttpResponse) : Except Fault HttpResponse := do
  let undo (content : ByteArray) (coding : Coding) := (coding.undo content).mapError Fault.garbled
  return { r with content := ← r.codings.reverse.foldlM undo r.content }

/-- Where a response sends the client on to. -/
def redirection? (r : HttpResponse) : Option String :=
  if [301, 302, 303, 307, 308].contains r.status then r.header? "location" else none

/-- The content as a value, nested `depth` deep at most. -/
def json (r : HttpResponse) (depth : Nat) : Except Fault Json := Json.readBytes depth r.content

/-- The content as text, in the encoding that the response names. -/
def text (r : HttpResponse) : Except Fault String := do
  if r.content.isEmpty then return ""
  let name ← match r.header? "content-type" with
    | some contentType => ContentType.charset? contentType
    | none => pure none
  (Text.lenientTextIn (name.getD "utf-8") r.content).mapError .encoding

/-- What a refusal says: the content as a value, else as text, else nothing. -/
def detail (r : HttpResponse) (depth : Nat) : Except Fault Json :=
  if r.content.isEmpty then .ok .null
  else match r.json depth with
    | .ok v => .ok v
    | .error (.json (.tooDeep inObject)) => .error (.json (.tooDeep inObject))
    | .error _ => r.text.map .str

end HttpResponse

/-- How responses are read: how deep their values may be nested, and what time stamps
without an offset go by. -/
structure Reading where
  depth : Nat := Json.usualDepth
  zone : Zone := .universal

/-- The way to the code host, with a clock and the means to wait. -/
structure Transport (σ : Type) where
  send : HttpRequest → Act σ HttpResponse
  pause : Double → Act σ Unit
  now : Act σ Instant

namespace GitHub

open Url

/-!
## Where a request goes

The address of a request is its own path behind the path of the base address.
User and password of the base address go into the credentials.
-/

/-- The address below which all requests go; its target ends in a slash. -/
structure Base where
  root : Reference

namespace Base

/-- Reads a base address. -/
def ofString (s : String) : Except Fault Base := do
  let root ← (Reference.ofString s).mapError Fault.address
  let target := root.target.toList
  if target.getLast? = some '/' then return ⟨root⟩
  return ⟨← (root.withTarget (target ++ ['/'])).mapError Fault.address⟩

/-- The address for `url` below the base. Parameters take the place of a query. -/
def address (base : Base) (url : String) (params : List (String × String)) :
    Except Fault Reference := do
  let below ← (Reference.ofString url).mapError Fault.address
  let target := base.root.target.toList ++ below.target.toList.dropWhile (· = '/')
  let whole ← (base.root.withTarget target).mapError Fault.address
  if params.isEmpty then return whole
  let query := Text.join "&" (params.map fun (k, v) => k ++ "=" ++ v)
  (whole.withPath whole.path.toList (some query.toList)).mapError Fault.address

end Base

/-- Base64 of bytes. -/
def base64 : List Nat → List Char
  | [] => []
  | a :: rest =>
    let digit (n : Nat) : Char :=
      ("ABCDEFGHIJKLMNOPQRSTUVWXYZabcdefghijklmnopqrstuvwxyz0123456789+/".toList.drop n).headD '='
    match rest with
    | [] => [digit (a / 4), digit (a % 4 * 16), '=', '=']
    | [b] => [digit (a / 4), digit (a % 4 * 16 + b / 16), digit (b % 16 * 4), '=']
    | b :: c :: more =>
      digit (a / 4) :: digit (a % 4 * 16 + b / 16) :: digit (b % 16 * 4 + c / 64) ::
        digit (c % 64) :: base64 more

/-- Credentials that an address brings along; they take the place of any other. -/
def authorizationIn? (r : Reference) : Option Authorization :=
  if r.userName = "" && r.password = "" then none
  else some (.basic (String.ofList
    (base64 (((r.userName ++ ":" ++ r.password).toUTF8.toList).map (·.toNat)))))

end GitHub

end PullReview
