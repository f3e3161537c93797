import PullReview.Changes.Map
import PullReview.Scope
import PullReview.Text.Lines
import PullReview.Number.Numeral

/-!
# Reading a unified diff

Each line of a diff is first classified by its beginning, then read in the
light of what came before: the file being changed and the number that the next
line has in the new file. Only added lines are recorded. Lines inside a file
that is not reviewed, or before any file, say nothing.
-/

namespace PullReview

open Text

/-- What a line of a diff can be, told by its beginning. -/
inductive DiffLine where
  /-- the new side's file name -/
  | newFile (path : List Char)
  /-- the old side's file name -/
  | oldFile
  /-- the end of what is known about the current file -/
  | boundary
  /-- the start of a hunk, with the digits of its first new line number -/
  | hunk (start : List Nat)
  | added
  | context
  | other
  deriving DecidableEq, Repr

namespace DiffLine

/-- A line range, `start` or `start,count`: the digits of the start, and what
follows. -/
def takeRange? (cs : List Char) : Option (List Nat × List Char) :=
  match Numeral.digitsInFront? cs with
  | some (start, ',' :: rest) =>
    match Numeral.digitsInFront? rest with
    | some (_, rest) => some (start, rest)
    | none => some (start, ',' :: rest)
  | found => found

/-- The digits of the new start in a hunk header. -/
def hunkStart? (cs : List Char) : Option (List Nat) := do
  let rest ← "@@ -".toList.isPrefixOf? cs
  let (_, rest) ← takeRange? rest
  let rest ← " +".toList.isPrefixOf? rest
  let (start, rest) ← takeRange? rest
  let _ ← " @@".toList.isPrefixOf? rest
  return start

/-- Classifies a line. File headers come before content, so a removed line that
reads `-- …` counts as an old file name, which changes nothing. -/
def ofChars (cs : List Char) : DiffLine :=
  match "+++ b/".toList.isPrefixOf? cs with
  | some path => .newFile path
  | none =>
    if "--- ".toList.isPrefixOf cs then .oldFile
    else if "Binary files".toList.isPrefixOf cs then .boundary
    else if "diff --git".toList.isPrefixOf cs then .boundary
    else match hunkStart? cs with
      | some start => .hunk start
      | none => match cs with
        | '+' :: _ => .added
        | ' ' :: _ => .context
        | _ => .other

end DiffLine

/-- What is known at one point of a diff: the map so far, the reviewed file
being changed, and the number of the next new line. -/
structure DiffCursor where
  map : ChangeMap
  file : Option String
  line : Nat
  deriving DecidableEq, Repr, Inhabited

namespace DiffCursor

def start : DiffCursor := ⟨.empty, none, 0⟩

/-- Reads one line. The line number runs on when a file is entered; a hunk sets
it. -/
def step (scope : Scope) (cur : DiffCursor) (kind : DiffLine) : Except NumeralFault DiffCursor :=
  match kind with
  | .newFile path =>
    let path := String.ofList path
    if scope.admits path then .ok { cur with map := cur.map.withFile path, file := some path }
    else .ok { cur with file := none }
  | .oldFile => .ok cur
  | .boundary => .ok { cur with file := none }
  | .hunk start =>
    match cur.file with
    | none => .ok cur
    | some _ => do return { cur with line := ← Numeral.natOf start }
  | .added =>
    match cur.file with
    | none => .ok cur
    | some path => .ok { cur with map := cur.map.addLine path cur.line, line := cur.line + 1 }
  | .context =>
    match cur.file with
    | none => .ok cur
    | some _ => .ok { cur with line := cur.line + 1 }
  | .other => .ok cur

end DiffCursor

/-- The map of the lines that a unified diff adds to reviewed files. It fails
only on a hunk number with too many digits. -/
def ChangeMap.ofDiff (scope : Scope) (diff : String) : Except NumeralFault ChangeMap := do
  let kinds := (unixLines diff.toList).map DiffLine.ofChars
  let cur ← kinds.foldlM (DiffCursor.step scope) .start
  return cur.map

/-- The reviewed files among the lines of a name listing, blanks around a name
dropped. -/
def Scope.select (scope : Scope) (names : List String) : List String :=
  (names.map Text.trimmed).filter fun name => name ≠ "" && scope.admits name

end PullReview
