import PullReview.Tree.Walk

/-!
# Changing a file tree

Writing, adding to and removing files and making directories each give a new
tree, or say why they cannot.
-/

namespace PullReview.Tree

/-- The place and the content of a file that may be written; a file that is not
there yet is empty. -/
def writable (t : Tree) (p : Path) : Except FileFault (List String × ByteArray) :=
  match t.walk p true with
  | .ok ⟨place, none⟩ => .ok (place, ByteArray.empty)
  | .ok ⟨place, some (.file content)⟩ => .ok (place, content)
  | .ok ⟨_, some (.dir _)⟩ => .error (.isDirectory p)
  | .ok ⟨_, some (.link _)⟩ => .error (.tooManyLinks p)
  | .error obstacle => .error (obstacle.fault p)

/-- Writes a file, in place of an older one. -/
def write (t : Tree) (p : Path) (content : ByteArray) : Except FileFault Tree := do
  let (place, _) ← t.writable p
  return { t with root := t.root.set place (.file content) }

/-- Adds to the end of a file, making it if needed. -/
def appendTo (t : Tree) (p : Path) (content : ByteArray) : Except FileFault Tree := do
  let (place, old) ← t.writable p
  return { t with root := t.root.set place (.file (old ++ content)) }

/-- Removes the entry of that name, if there is one. -/
def remove (t : Tree) (p : Path) : Tree :=
  match t.walk p false with
  | .ok spot => { t with root := t.root.erase spot.place }
  | .error _ => t

/-- Makes a directory where nothing is, in a directory that is there. -/
def makeDir (t : Tree) (p : Path) : Except FileFault Tree :=
  match t.walk p false with
  | .ok ⟨place, none⟩ => .ok { t with root := t.root.set place (.dir []) }
  | .ok ⟨_, some _⟩ => .error (.alreadyThere p)
  | .error obstacle => .error (obstacle.fault p)

/-- Makes a directory, unless there is one already. -/
def ensureDir (t : Tree) (p : Path) : Except FileFault Tree :=
  match t.makeDir p with
  | .error (.notFound q) => .error (.notFound q)
  | .error fault => if t.isDir p then .ok t else .error fault
  | .ok t => .ok t

/-- Makes a directory, where it is missing also up to `above` of those above it. -/
def ensureDirs (above : Nat) (t : Tree) (p : Path) : Except FileFault Tree :=
  match t.ensureDir p with
  | .error (.notFound q) =>
    match above with
    | 0 => .error (.notFound q)
    | above + 1 => do
      let t ← ensureDirs above t p.parent
      t.ensureDir p
  | answer => answer

/-- Makes a directory and those above it, where they are not there yet. -/
def makeDirs (t : Tree) (p : Path) : Except FileFault Tree := t.ensureDirs p.parts.length p

end PullReview.Tree
