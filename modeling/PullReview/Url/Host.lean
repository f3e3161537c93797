import PullReview.Url.Domain
import PullReview.Url.Percent

/-!
# Hosts of addresses

A host is a domain name, an IPv4 address or an IPv6 address in brackets, and is
written in one normal form: names in small ASCII letters, IPv4 addresses as
four numbers, IPv6 addresses with their longest run of zeros left out.
-/

namespace PullReview.Url

/-- The number that digits write in a base; none if one is not a digit. -/
def numberIn (base : Nat) (cs : List Char) : Option Nat :=
  cs.foldlM (fun n c =>
    match Json.hexValue? c with
    | some d => if d < base then some (n * base + d) else none
    | none => none) 0

/-- A part of an IPv4 address: decimal, octal after `0`, hexadecimal after `0x`. -/
def ipv4Number (cs : List Char) : Option Nat :=
  match cs with
  | [] => none
  | '0' :: 'x' :: ds | '0' :: 'X' :: ds => numberIn 16 ds
  | '0' :: d :: ds => numberIn 8 (d :: ds)
  | ds => numberIn 10 ds

/-- The parts between points; a point at the end counts for nothing. -/
def pointParts (cs : List Char) : List (List Char) :=
  let parts := Text.splitAtEach '.' cs
  if 1 < parts.length && parts.getLast? = some [] then parts.dropLast else parts

/-- Whether a name has to be read as an IPv4 address: its last part is a number. -/
def endsInNumber (cs : List Char) : Bool :=
  match (pointParts cs).getLast? with
  | some part =>
    (!part.isEmpty && part.all (fun c => '0' ≤ c && c ≤ '9')) ||
      ((part.take 2 = ['0', 'x'] || part.take 2 = ['0', 'X']) && (ipv4Number part).isSome)
  | none => false

/-- The value of an IPv4 address in up to four parts, the last of which may
fill several bytes. -/
def ipv4? (cs : List Char) : Option Nat := do
  let parts := pointParts cs
  if 4 < parts.length then none
  let numbers ← parts.mapM ipv4Number
  let last ← numbers.getLast?
  let front := numbers.dropLast
  if front.any (255 < ·) || Nat.pow 256 (5 - numbers.length) ≤ last then none
  let shifted := front.zipIdx.map fun (n, i) => n * Nat.pow 256 (3 - i)
  return shifted.foldl (· + ·) last

def ipv4Text (n : Nat) : String :=
  Text.join "." ([n / Nat.pow 256 3, n / Nat.pow 256 2 % 256, n / 256 % 256, n % 256].map toString)

/-- An IPv4 address in plain decimal as two pieces of an IPv6 address. -/
def plainIpv4 (cs : List Char) : Option (List Nat) := do
  let number (q : List Char) : Option Nat :=
    if q.isEmpty || (1 < q.length && q.head? = some '0') then none
    else (numberIn 10 q).filter (· ≤ 255)
  match ← (Text.splitAtEach '.' cs).mapM number with
  | [a, b, c, d] => some [a * 256 + b, c * 256 + d]
  | _ => none

/-- The pieces of a part of an IPv6 address; the last one may be an IPv4 address
in plain decimal. -/
def ipv6Pieces (last : Bool) (cs : List Char) : Option (List Nat) :=
  if cs.isEmpty then some []
  else
    let pieces := Text.splitAtEach ':' cs
    let read (p : List Char) (isLast : Bool) : Option (List Nat) :=
      if last && isLast && p.contains '.' then plainIpv4 p
      else if p.isEmpty || 4 < p.length then none
      else (numberIn 16 p).map fun n => [n]
    (pieces.zipIdx.mapM fun (p, i) => read p (i + 1 = pieces.length)).map List.flatten

/-- Cuts a text at the first pair of colons. -/
def cutAtGap : List Char → Option (List Char × List Char)
  | ':' :: ':' :: cs => some ([], cs)
  | c :: cs => (cutAtGap cs).map fun (a, b) => (c :: a, b)
  | [] => none

/-- The eight pieces of an IPv6 address. -/
def ipv6? (cs : List Char) : Option (List Nat) :=
  match cutAtGap cs with
  | none => do
    let ps ← ipv6Pieces true cs
    if ps.length = 8 then some ps else none
  | some (a, b) => do
    let front ← ipv6Pieces false a
    let back ← ipv6Pieces true b
    if 7 < front.length + back.length then none
    some (front ++ List.replicate (8 - front.length - back.length) 0 ++ back)

/-- The length of the run of zeros in front. -/
def zeroRun (ps : List Nat) : Nat := (ps.takeWhile (· = 0)).length

/-- The first longest run of at least two zeros: where it starts, how long it is. -/
def longestGap (ps : List Nat) : Option (Nat × Nat) :=
  let runs := (List.range ps.length).map fun i => (i, zeroRun (ps.drop i))
  let best := runs.foldl (fun best run => if best.2 < run.2 then run else best) (0, 1)
  if 1 < best.2 then some best else none

def hexPiece (n : Nat) : String := String.ofList (Nat.toDigits 16 n)

def ipv6Text (ps : List Nat) : String :=
  let text (qs : List Nat) := Text.join ":" (qs.map hexPiece)
  match longestGap ps with
  | some (start, size) => text (ps.take start) ++ "::" ++ text (ps.drop (start + size))
  | none => text ps

/-- Characters that no host name holds. -/
def isForbidden (c : Char) : Bool :=
  c.toNat ≤ 0x20 || c.toNat = 0x7f || " #/:<>?@[\\]^|%".toList.contains c

/-- The normal form of a host; none if it is no host. -/
def host? (cs : List Char) : Option String :=
  match cs with
  | [] => none
  | '[' :: rest =>
    if rest.getLast? = some ']' then
      (ipv6? rest.dropLast).map fun ps => "[" ++ ipv6Text ps ++ "]"
    else none
  | _ =>
    match asciiName? (unescapedText cs) with
    | none | some [] => none
    | some name =>
      if name.any isForbidden then none
      else if endsInNumber name then (ipv4? name).map ipv4Text
      else some (String.ofList name)

end PullReview.Url
