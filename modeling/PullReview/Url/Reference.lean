import PullReview.Fault
import PullReview.Number.Numeral
import PullReview.Text.Case
import PullReview.Url.Host
import PullReview.Url.Percent
import PullReview.Url.StrictName

/-!
# References

A reference is an address or part of one: scheme, user, host, port, path and
query, each of which may be missing. Characters that may not stand in a part
are escaped there; what is escaped already stays as it is.
-/

namespace PullReview.Url

/-- An address, taken apart. The host of an IPv6 address has no brackets. -/
structure Reference where
  scheme : String := ""
  user : String := ""
  host : String := ""
  port : Option Int := none
  path : String := ""
  query : Option String := none
  deriving Repr

/-- The longest address or part of one. -/
def maxLength : Nat := 65536

/-- Escapes what may not stand in the user of an address. -/
def escapedUser (cs : List Char) : List Char :=
  escape (visibleBut "\"#<>?`\x7b\x7d/;=@[\\]^|".toList) cs

/-- Escapes what may not stand in a host. -/
def escapedHost (cs : List Char) : List Char := escape (visibleBut "#/:<>?@[]^".toList) cs

/-- Escapes what may not stand in a path. -/
def escapedPath (cs : List Char) : List Char := escape (visibleBut "\"#<>?`\x7b\x7d".toList) cs

/-- Escapes what may not stand in a query. -/
def escapedQuery (cs : List Char) : List Char := escape (visibleBut "\"#<>".toList) cs

/-- The scheme in front of the first colon, which may be missing, and the rest. -/
def cutScheme (cs : List Char) : List Char × List Char :=
  let isIn (c : Char) : Bool := c.isAlphanum || ['+', '.', '-'].contains c
  let scheme := cs.takeWhile isIn
  match cs.drop scheme.length, scheme.head?.all Char.isAlpha with
  | ':' :: rest, true => (scheme, rest)
  | _, _ => ([], cs)

/-- Whether a host looks like four numbers with one character between each two
of them: a state is how many characters between numbers were passed, and
whether a digit of the next number was. -/
def looksLikeIpv4 (cs : List Char) : Bool :=
  let step (states : List (Nat × Bool)) (c : Char) : List (Nat × Bool) :=
    (states.flatMap fun (passed, inNumber) =>
      (if '0' ≤ c && c ≤ '9' then [(passed, true)] else []) ++
        (if inNumber && passed < 3 then [(passed + 1, false)] else [])).eraseDups
  (cs.foldl step [(0, false)]).contains (3, true)

/-- Whether a text is an IPv6 address; the name of a zone may follow it. -/
def isIpv6 (cs : List Char) : Bool :=
  let address := cs.takeWhile (· ≠ '%')
  let zone := cs.drop address.length
  (ipv6? address).isSome && (zone.isEmpty || (1 < zone.length && !(zone.drop 1).contains '%'))

/-- A host in its normal form. -/
def hostOf (cs : List Char) : Except AddressFault String :=
  let text := String.ofList cs
  match cs with
  | [] => .ok ""
  | first :: _ =>
    if looksLikeIpv4 cs then
      if (plainIpv4 cs).isSome then .ok text else .error (.badIpv4 text)
    else if first = '[' && cs.getLast? = some ']' && 1 < cs.length then
      let inner := (cs.drop 1).dropLast
      if isIpv6 inner then .ok (String.ofList inner) else .error (.badIpv6 text)
    else if isAsciiText cs then .ok (String.ofList (escapedHost (cs.map Char.toLower)))
    else
      match strictName? (Text.smallLetters cs) with
      | some name => .ok (String.ofList name)
      | none => .error (.badName text)

/-- A port, unless it is the usual one of the scheme. -/
def portOf (scheme : String) (cs : List Char) : Except AddressFault (Option Int) :=
  let usual := [("ftp", 21), ("http", 80), ("https", 443), ("ws", 80), ("wss", 443)]
  if cs.isEmpty then .ok none
  else match Numeral.readInt (String.ofList cs) with
    | .ok n => .ok (if usual.lookup scheme = some n then none else some n)
    | .error _ => .error (.badPort (String.ofList cs))

/-- Takes the dot segments out of a path. -/
def withoutDotSegments (cs : List Char) : List Char :=
  let kept := (Text.splitAtEach '/' cs).foldl (fun out part =>
    if part = ['.'] then out
    else if part = ['.', '.'] then (if out = [] || out = [[]] then out else out.dropLast)
    else out ++ [part]) []
  (kept.intersperse ['/']).flatten

namespace Reference

/-- A reference of its parts. -/
def ofParts (scheme authority path : List Char) (query : Option (List Char)) :
    Except AddressFault Reference := do
  let (user, place) := Text.cutAtLast '@' authority
  let lastBracket := (place.reverse.dropWhile (· ≠ ']')).reverse
  let hostPart :=
    if place.head? = some '[' && !lastBracket.isEmpty then lastBracket
    else place.takeWhile (· ≠ ':')
  let portPart := match place.drop hostPart.length with
    | ':' :: port => port
    | port => port
  let user := String.ofList (escapedUser (user.getD []))
  let host ← hostOf hostPart
  let port ← portOf (String.ofList scheme) portPart
  let hasHost := user ≠ "" || host ≠ "" || port.isSome
  if hasHost && !path.isEmpty && path.head? ≠ some '/' then throw .pathBehindHost
  if !hasHost && scheme.isEmpty then
    if path.take 2 = ['/', '/'] then throw (.relativePath "//")
    if path.head? = some ':' then throw (.relativePath ":")
  let path := if hasHost || !scheme.isEmpty then withoutDotSegments path else path
  return {
    scheme := String.ofList (scheme.map Char.toLower)
    user := user
    host := host
    port := port
    path := String.ofList (escapedPath path)
    query := query.map fun q => String.ofList (escapedQuery q) }

/-- Reads a reference. What follows a number sign is dropped. -/
def ofString (s : String) : Except AddressFault Reference := do
  let cs := s.toList
  let isControl (c : Char) : Bool := c.toNat < 0x20 || c.toNat = 0x7f
  if maxLength < cs.length then throw .tooLong
  if let some c := cs.find? isControl then
    throw (.controlCharacter c (cs.takeWhile (!isControl ·)).length)
  let (scheme, rest) := cutScheme cs
  let stops (c : Char) : Bool := c = '/' || c = '?' || c = '#'
  let (authority, rest) := match rest with
    | '/' :: '/' :: rest => (rest.takeWhile (!stops ·), rest.dropWhile (!stops ·))
    | rest => ([], rest)
  let path := rest.takeWhile fun c => c ≠ '?' && c ≠ '#'
  let query := match rest.drop path.length with
    | '?' :: more => some (more.takeWhile (· ≠ '#'))
    | _ => none
  ofParts scheme authority path query

/-- Host and port, the host of an IPv6 address in brackets. -/
def place (r : Reference) : String :=
  (if r.host.toList.contains ':' then s!"[{r.host}]" else r.host) ++
    match r.port with
    | some port => s!":{port}"
    | none => ""

/-- All that stands between scheme and path. -/
def authority (r : Reference) : String :=
  (if r.user = "" then "" else r.user ++ "@") ++ r.place

def queryText (r : Reference) : String :=
  match r.query with
  | some query => "?" ++ query
  | none => ""

/-- Path and query as they are sent. -/
def target (r : Reference) : String := (if r.path = "" then "/" else r.path) ++ r.queryText

/-- The whole reference. -/
def text (r : Reference) : String :=
  (if r.scheme = "" then "" else r.scheme ++ ":") ++
    (if r.authority = "" then "" else "//" ++ r.authority) ++ r.path ++ r.queryText

/-- The reference with another path and query. -/
def withPath (r : Reference) (path : List Char) (query : Option (List Char)) :
    Except AddressFault Reference := do
  let authority := r.authority.toList
  if maxLength < authority.length then throw (.longComponent "authority")
  if maxLength < path.length then throw (.longComponent "path")
  if maxLength < (query.getD []).length then throw (.longComponent "query")
  ofParts r.scheme.toList authority path query

/-- The reference with another path and query, given together. -/
def withTarget (r : Reference) (target : List Char) : Except AddressFault Reference :=
  let path := target.takeWhile (· ≠ '?')
  r.withPath path (match target.drop path.length with
    | _ :: query => some query
    | [] => none)

/-- The name in front of the colon of a user. -/
def userName (r : Reference) : String :=
  String.ofList (unescapedText (r.user.toList.takeWhile (· ≠ ':')))

/-- What follows the colon of a user. -/
def password (r : Reference) : String :=
  String.ofList (unescapedText ((r.user.toList.dropWhile (· ≠ ':')).drop 1))

/-- Whether something stands in front of a colon, and no slash. -/
def hasType (r : Reference) : Bool :=
  let cs := r.text.toList
  let front := cs.takeWhile fun c => c ≠ '/' && c ≠ ':'
  !front.isEmpty && (cs.drop front.length).head? = some ':'

end Reference

end PullReview.Url
