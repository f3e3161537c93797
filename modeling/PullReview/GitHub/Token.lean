import PullReview.GitHub.Exchange
import PullReview.Json.Access
import PullReview.Settings.Basic

/-!
# Tokens

A run is authorised by a token given to it, or by tokens that an app gets for
an installation. Such a token is kept and used until a minute before it
expires.
-/

namespace PullReview.GitHub

/-- A token of an installation. -/
structure InstallationToken where
  token : Json
  expiresAt : Instant
  permissions : Json

namespace InstallationToken

/-- Whether a token is still good, `skew` microseconds of doubt taken into account. -/
def isActive (t : InstallationToken) (skew : Int) (now : Instant) : Except Fault Bool :=
  let limit : Instant := ⟨t.expiresAt.micros - skew⟩
  if limit.hasDate then .ok (now.micros < limit.micros)
  else .error (.outOfRange "date value out of range")

/-- Microseconds before its expiry at which a token is no longer used. -/
def usualSkew : Int := 60 * Instant.microsPerSecond

/-- The microseconds of a number of seconds. -/
def skewOf : Json → Except Fault Int
  | .float .nan => .error (.data .noNumberInNan)
  | .float x =>
    match Instant.microsOfSeconds? x with
    | some micros => .ok micros
    | none => .error (.outOfRange "cannot convert float infinity to integer")
  | v =>
    match v.whole? with
    | some seconds => .ok (seconds * Instant.microsPerSecond)
    | none => .error (.misuse (.noSpan v.kindName))

end InstallationToken

/-- The instant of a time stamp in a response. -/
def instantOf (zone : Zone) (raw : Json) : Except Fault Instant :=
  match raw with
  | .str s =>
    match Stamp.read zone s with
    | .ok t => .ok t
    | .error .malformed => .error (.data (.badTimestamp s))
    | .error .outOfRange => .error (.outOfRange "date value out of range")
  | v => .error (.misuse (.noMember v.kindName "endswith"))

/-- What an app claims at an instant: it asked a minute ago and for ten minutes.
Both ends must have a date. -/
def claimsAt (credentials : AppCredentials) (now : Instant) : Except Fault AppClaims :=
  let asked := now.addSeconds (-60)
  let ends := now.addSeconds 600
  if asked.hasDate && ends.hasDate then
    .ok ⟨asked.seconds, ends.seconds, toString credentials.appId⟩
  else .error (.outOfRange "date value out of range")

/-- Line feeds written as escapes become line feeds. -/
def normalKey (key : String) : List Char :=
  let rec go : List Char → List Char
    | '\\' :: 'n' :: cs => '\n' :: go cs
    | c :: cs => c :: go cs
    | [] => []
  go key.toList

/-- Reads the response to a request for a token. -/
def tokenOfResponse (how : Reading) (url : String) (r : HttpResponse) :
    Except Fault InstallationToken := do
  if 400 ≤ r.status then
    throw (.api ⟨s!"GitHub API request to {url} failed with status {r.status}.", r.status,
      ← r.detail how.depth⟩)
  let data ← r.json how.depth
  let token ← data.member "token"
  let expiresAt ← data.member "expires_at"
  if !token.isTruthy || !expiresAt.isTruthy then
    throw (.api ⟨"GitHub did not return a usable installation token.", r.status, data⟩)
  return ⟨token, ← instantOf how.zone expiresAt, data.getD "permissions"⟩

end PullReview.GitHub
