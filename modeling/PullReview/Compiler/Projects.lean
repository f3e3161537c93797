import PullReview.Tree.Walk

/-!
# Finding the projects of a workspace

Every directory with a project file is a project. The search goes through the
directories of a tree, passes over those with ignored names, and follows no
link; a directory comes before those below it, and these in code point order.
-/

namespace PullReview

def projectFile : String := "tsconfig.json"

/-- Directories that hold no projects of their own. -/
def ignoredDirectories : List String := ["node_modules", "dist", "build", "action-dist", ".git"]

namespace Tree

/-- Whether an entry is a directory or a link that leads to one. -/
def leadsToDirectory (t : Tree) (place : List String) : Node → Bool
  | .dir _ => true
  | .file _ => false
  | .link _ => t.isDir (.absolute place)

/-- Whether the entries of a directory make it a project. -/
def isProject (t : Tree) (place : List String) (entries : List (String × Node)) : Bool :=
  entries.any fun (name, node) =>
    name = projectFile && !t.leadsToDirectory (place ++ [name]) node

mutual

/-- The places of the project files at and below a node. -/
def projectsAt (t : Tree) (ignored : List String) (place : List String) : Node → List (List String)
  | .dir entries =>
    let below := (projectsAmong t ignored place entries).mergeSort fun a b => decide (a.1 ≤ b.1)
    (if t.isProject place entries then [place ++ [projectFile]] else []) ++ below.flatMap (·.2)
  | .file _ => []
  | .link _ => []

/-- The directories among the entries, each with the project files below it. -/
def projectsAmong (t : Tree) (ignored : List String) (place : List String) :
    List (String × Node) → List (String × List (List String))
  | [] => []
  | (name, node) :: rest =>
    let others := projectsAmong t ignored place rest
    match node with
    | .dir entries =>
      if ignored.contains name then others
      else (name, projectsAt t ignored (place ++ [name]) (.dir entries)) :: others
    | _ => others

end

/-- The project files of the workspace at a place, in order. -/
def projects (t : Tree) (ignored : List String) (workspace : List String) : List (List String) :=
  match t.root.at? workspace with
  | some node => t.projectsAt ignored workspace node
  | none => []

end Tree

end PullReview
