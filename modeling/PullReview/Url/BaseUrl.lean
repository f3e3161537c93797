import PullReview.Url.Host

/-!
# The address of the code host

Base addresses are read leniently and written in one normal form: the scheme is
`http` or `https`, backslashes count as slashes, dot segments are taken out, the
usual port is left out, and characters that may not stand where they do are
escaped.
-/

namespace PullReview.Url

/-- Drops tabs and line ends anywhere, and control characters and spaces at
both ends. -/
def cleaned (cs : List Char) : List Char :=
  let isEdge (c : Char) : Bool := c.toNat ≤ 0x20
  let cs := cs.dropWhile isEdge
  let cs := (cs.reverse.dropWhile isEdge).reverse
  cs.filter fun c => c ≠ '\t' && c ≠ '\n' && c ≠ '\r'

def isSlash (c : Char) : Bool := c = '/' || c = '\\'

/-- The scheme in front of a colon, in small letters, and what follows. -/
def scheme? (cs : List Char) : Option (String × List Char) :=
  let isPart (c : Char) : Bool := c.isAlphanum || c = '+' || c = '-' || c = '.'
  match cs, cs.dropWhile isPart with
  | first :: _, ':' :: rest =>
    if first.isAlpha then
      some (String.ofList ((cs.takeWhile isPart).map Char.toLower), rest)
    else none
  | _, _ => none

def userTaken : List Char := " \"<>`#?\x7b\x7d/:;=@[\\]^|".toList
def pathTaken : List Char := " \"<>`#?\x7b\x7d".toList
def queryTaken : List Char := " \"<>#'".toList
def fragmentTaken : List Char := " \"<>`".toList

/-- User and password as they stand in front of the host. -/
def userText (cs : List Char) : String :=
  let user := cs.takeWhile (· ≠ ':')
  let password := (cs.dropWhile (· ≠ ':')).drop 1
  let keep := visibleBut userTaken
  let text := escape keep user ++ (if password.isEmpty then [] else ':' :: escape keep password)
  if text.isEmpty then "" else String.ofList text ++ "@"

/-- Cuts a host from its port, at the first colon outside brackets. -/
def cutPort : Bool → List Char → List Char × Option (List Char)
  | _, [] => ([], none)
  | inside, c :: cs =>
    if c = ':' && !inside then ([], some cs)
    else
      let inside := if c = '[' then true else if c = ']' then false else inside
      let (host, port) := cutPort inside cs
      (c :: host, port)

/-- The port as it stands behind the host; none if it is no port. -/
def portText (scheme : String) (port : Option (List Char)) : Option String :=
  match port with
  | none => some ""
  | some ds =>
    if !ds.all (fun c => '0' ≤ c && c ≤ '9') then none
    else if ds.isEmpty then some ""
    else
      match numberIn 10 ds with
      | some n =>
        if 65535 < n then none
        else if (scheme = "http" && n = 80) || (scheme = "https" && n = 443) then some ""
        else some s!":{n}"
      | none => none

def isSingleDot (segment : List Char) : Bool :=
  ["." , "%2e"].contains (String.ofList (segment.map Char.toLower))

def isDoubleDot (segment : List Char) : Bool :=
  ["..", ".%2e", "%2e.", "%2e%2e"].contains (String.ofList (segment.map Char.toLower))

/-- Takes dot segments out. One at the end leaves an empty segment. -/
def withoutDots (done : List (List Char)) : List (List Char) → List (List Char)
  | [] => done
  | segment :: rest =>
    if isDoubleDot segment then
      withoutDots (done.dropLast ++ if rest.isEmpty then [[]] else []) rest
    else if isSingleDot segment then
      withoutDots (done ++ if rest.isEmpty then [[]] else []) rest
    else withoutDots (done ++ [segment]) rest

/-- The path in normal form; it starts with a slash. -/
def pathText (cs : List Char) : String :=
  let cs := match cs with
    | c :: rest => if isSlash c then rest else cs
    | [] => []
  let segments := Text.splitAtEach '/' (cs.map fun c => if c = '\\' then '/' else c)
  let segments := withoutDots [] segments
  "/" ++ Text.join "/" (segments.map fun s => String.ofList (escape (visibleBut pathTaken) s))

/-- The address in normal form; none if it is no address of a server. -/
def normal? (s : String) : Option String := do
  let (scheme, rest) ← scheme? (cleaned s.toList)
  if scheme ≠ "http" && scheme ≠ "https" then none
  let rest := rest.dropWhile isSlash
  let stops (c : Char) : Bool := isSlash c || c = '?' || c = '#'
  let authority := rest.takeWhile (!stops ·)
  let rest := rest.dropWhile (!stops ·)
  let (user, place) := Text.cutAtLast '@' authority
  let (hostPart, port) := cutPort false place
  let host ← host? hostPart
  let port ← portText scheme port
  let path := rest.takeWhile fun c => c ≠ '?' && c ≠ '#'
  let rest := rest.dropWhile fun c => c ≠ '?' && c ≠ '#'
  let (query, fragment) := match rest with
    | '?' :: more => (some (more.takeWhile (· ≠ '#')), (more.dropWhile (· ≠ '#')))
    | more => (none, more)
  let queryText := match query with
    | some q => "?" ++ String.ofList (escape (visibleBut queryTaken) q)
    | none => ""
  let fragmentText := match fragment with
    | _ :: f => "#" ++ String.ofList (escape (visibleBut fragmentTaken) f)
    | [] => ""
  return scheme ++ "://" ++ userText (user.getD []) ++ host ++ port ++ pathText path ++
    queryText ++ fragmentText

end PullReview.Url
