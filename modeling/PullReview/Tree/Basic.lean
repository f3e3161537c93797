import PullReview.Path
import PullReview.Text.Quoted

/-!
# File trees

A tree of directories, files and symbolic links, named from its root by lists
of components. `at?` looks at a place without following any link, and `set` and
`erase` change what is there.
-/

namespace PullReview

inductive Node where
  | file (content : ByteArray)
  | link (target : String)
  | dir (entries : List (String × Node))
  deriving Inhabited

/-- Why a file cannot be used. -/
inductive FileFault where
  | notFound (path : Path)
  | alreadyThere (path : Path)
  | notDirectory (path : Path)
  | isDirectory (path : Path)
  | denied (path : Path)
  | nameTooLong (path : Path)
  | tooManyLinks (path : Path)
  deriving DecidableEq, Repr

namespace FileFault

def path : FileFault → Path
  | .notFound p | .alreadyThere p | .notDirectory p | .isDirectory p | .denied p | .nameTooLong p
  | .tooManyLinks p => p

/-- The number under which a fault is known. -/
def number : FileFault → Nat
  | .notFound _ => 2
  | .denied _ => 13
  | .alreadyThere _ => 17
  | .notDirectory _ => 20
  | .isDirectory _ => 21
  | .nameTooLong _ => 36
  | .tooManyLinks _ => 40

/-- What is wrong, in a few words. -/
def reason : FileFault → String
  | .notFound _ => "No such file or directory"
  | .denied _ => "Permission denied"
  | .alreadyThere _ => "File exists"
  | .notDirectory _ => "Not a directory"
  | .isDirectory _ => "Is a directory"
  | .nameTooLong _ => "File name too long"
  | .tooManyLinks _ => "Too many levels of symbolic links"

def message (f : FileFault) : String :=
  s!"[Errno {f.number}] {f.reason}: {Text.quoted f.path.text}"

end FileFault

namespace Node

/-- The entry of a directory. -/
def child? (n : Node) (name : String) : Option Node :=
  match n with
  | .dir entries => (entries.find? (·.1 = name)).map (·.2)
  | _ => none

/-- The node at a place, no link on the way being followed. -/
def at? (n : Node) : List String → Option Node
  | [] => some n
  | name :: rest => (n.child? name).bind (·.at? rest)

/-- The entries with `name` set to `node`. -/
def setEntry (entries : List (String × Node)) (name : String) (node : Node) :
    List (String × Node) :=
  if entries.any (·.1 = name) then
    entries.map fun e => if e.1 = name then (name, node) else e
  else entries ++ [(name, node)]

/-- The tree with `node` at a place; directories on the way are made. -/
def set (n : Node) (place : List String) (node : Node) : Node :=
  match place with
  | [] => node
  | name :: rest =>
    let entries := match n with
      | .dir entries => entries
      | _ => []
    let below := ((Node.dir entries).child? name).getD (.dir [])
    .dir (setEntry entries name (below.set rest node))

/-- The tree without the entry at a place. -/
def erase (n : Node) : List String → Node
  | [] => n
  | [name] => match n with
    | .dir entries => .dir (entries.filter (·.1 ≠ name))
    | _ => n
  | name :: rest => match n with
    | .dir entries => match (Node.dir entries).child? name with
      | some below => .dir (setEntry entries name (below.erase rest))
      | none => n
    | _ => n

end Node

/-- A file tree with the place that relative paths start from. -/
structure Tree where
  root : Node
  here : List String
  deriving Inhabited

namespace Tree

def empty : Tree := ⟨.dir [], []⟩

/-- The components of a path, from the root of the tree. -/
def fromRoot (t : Tree) (p : Path) : List String :=
  if p.isAbsolute then p.parts else t.here ++ p.parts

end Tree

end PullReview
