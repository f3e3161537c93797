import PullReview.Fault
import PullReview.Report.Markdown

/-!
# Comments as the code host lists them

Comments come as JSON objects, some of them with fields missing or emptied. Two
questions matter: does a comment belong to this program, and which line does it
stand at. A comment that is outdated has lost its line and keeps the one it was
made at.
-/

namespace PullReview.Comment

/-- Whether a text occurs inside another one. -/
def occursIn (part : List Char) : List Char → Bool
  | [] => part.isEmpty
  | c :: cs => part.isPrefixOf (c :: cs) || occursIn part cs

/-- Whether a value holds the marker: a text somewhere inside, a list as an
item, an object as a name. A value that stands for nothing does not. -/
def holdsMarker (v : Json) : Except Fault Bool :=
  if !v.isTruthy then .ok false
  else match v with
    | .str s => .ok (occursIn marker.toList s.toList)
    | .arr items => .ok (items.any fun x => x.str? = some marker)
    | .obj members => .ok (members.any (·.1 = marker))
    | _ => .error (.misuse (.noContainment v.kindName))

/-- Whether the body of a comment holds the marker. -/
def isMarked (c : Json) : Except Fault Bool := do holdsMarker (← c.member "body")

/-- Whether a bot wrote a comment. -/
def isByBot (user : Json) : Except Fault Bool :=
  if !user.isTruthy then .ok false
  else do return (← user.member "type").str? = some "Bot"

/-- Whether a comment counts as one of this program's: it is marked or written
by a bot. -/
def isOwn (c : Json) : Except Fault Bool := do
  let body ← c.member "body"
  let user ← c.member "user"
  if ← holdsMarker body then return true
  isByBot user

/-- The line of a comment, or the one it was made at. -/
def lineOf (c : Json) : Json :=
  let line := c.getD "line"
  if line.isTruthy then line else c.getD "original_line"

/-- A place that a comment can stand at. -/
abbrev Location := Json × Int

/-- The place of a comment, if it has a path and a line. -/
def location? (c : Json) : Except Fault (Option Location) :=
  let path := c.getD "path"
  if !path.isTruthy then .ok none
  else
    let at? : Json → Option Int
      | .int n => some n
      | .bool b => some (if b then 1 else 0)
      | _ => none
    match at? (lineOf c), path with
    | none, _ => .ok none
    | some _, .arr _ | some _, .obj _ => .error (.misuse (.unhashable path.kindName))
    | some line, _ => .ok (some (path, line))

/-- The places of this program's comments. -/
def ownLocations : List Json → Except Fault (List Location)
  | [] => .ok []
  | c :: cs => do
    let here ← if ← isOwn c then location? c else pure none
    let more ← ownLocations cs
    return here.toList ++ more

/-- The order of two places: by path, then by line. -/
def compareLocations? (a b : Location) : Option Ordering :=
  (Json.compare? a.1 b.1).map (·.then (compare a.2 b.2))

/-- Puts a place among sorted ones, unless it is there already. -/
def insertLocation (l : Location) : List Location → Except Fault (List Location)
  | [] => .ok [l]
  | first :: rest =>
    match compareLocations? l first with
    | some .lt => .ok (l :: first :: rest)
    | some .eq => .ok (first :: rest)
    | some .gt => return first :: (← insertLocation l rest)
    | none => .error (.misuse (.unordered l.1.kindName first.1.kindName))

/-- The places of this program's comments in order, each of them once. -/
def sortedLocations (comments : List Json) : Except Fault (List Location) := do
  (← ownLocations comments).foldlM (fun sorted l => insertLocation l sorted) []

/-- The first comment with the marker. -/
def firstMarked : List Json → Except Fault (Option Json)
  | [] => .ok none
  | c :: cs => do if ← isMarked c then return some c else firstMarked cs

end PullReview.Comment
