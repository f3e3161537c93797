/-!
# Maps of changed lines

A change map holds the files that a change touches, each with the numbers of
the lines it adds. A file may be there without lines: it was renamed, or only
lost some.
-/

namespace PullReview

structure ChangeMap where
  files : List (String × List Int)
  deriving DecidableEq, Repr, Inhabited

namespace ChangeMap

def empty : ChangeMap := ⟨[]⟩

def isEmpty (m : ChangeMap) : Bool := m.files.isEmpty

/-- The files, in the order in which they were first seen. -/
def paths (m : ChangeMap) : List String := m.files.map (·.1)

def size (m : ChangeMap) : Nat := m.files.length

/-- The changed lines of a file, if the file is there. -/
def lines? (m : ChangeMap) (path : String) : Option (List Int) := m.files.lookup path

/-- Whether the change adds this line of this file. -/
def touches (m : ChangeMap) (path : String) (line : Int) : Bool :=
  match m.lines? path with
  | some lines => lines.contains line
  | none => false

/-- Makes sure that a file is there. -/
def withFile (m : ChangeMap) (path : String) : ChangeMap :=
  if (m.lines? path).isSome then m else ⟨m.files ++ [(path, [])]⟩

/-- Adds a line to a file that is there. -/
def addLine (m : ChangeMap) (path : String) (line : Int) : ChangeMap :=
  ⟨m.files.map fun (p, lines) => if p = path then (p, line :: lines) else (p, lines)⟩

/-- The files by code point order. -/
def sortedPaths (m : ChangeMap) : List String := m.paths.mergeSort (fun a b => decide (a ≤ b))

end ChangeMap

end PullReview
