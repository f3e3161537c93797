import PullReview.Tree.Basic

/-!
# Walking to where a path leads

A path is walked component by component, each of them an entry of a directory
that is there, and links are followed on the way. The last component need not
be there: then the walk ends at a spot that is free. Names, paths and the
number of links on one walk have a limit.
-/

namespace PullReview

/-- Why a path leads nowhere. -/
inductive Obstacle where
  | missing
  | notDirectory
  | tooManyLinks
  | nameTooLong
  deriving DecidableEq, Repr

/-- What an obstacle on the way of a path means for the one who took it. -/
def Obstacle.fault (p : Path) : Obstacle → FileFault
  | .missing => .notFound p
  | .notDirectory => .notDirectory p
  | .tooManyLinks => .tooManyLinks p
  | .nameTooLong => .nameTooLong p

/-- Where a walk ends: an entry of a directory, and what is there. -/
structure Spot where
  place : List String
  node : Option Node

namespace Tree

/-- How many links are followed on one walk. -/
def maxLinks : Nat := 40

/-- How many bytes a name may have. -/
def maxName : Nat := 255

/-- How many bytes a path may have. -/
def maxPath : Nat := 4095

/-- Walks the components `todo` from the place `done`. A link at the very end is
followed only if `toTheEnd` is set. -/
def walkFrom (root : Node) (toTheEnd : Bool) (links : Nat) (done todo : List String) :
    Except Obstacle Spot :=
  match todo with
  | [] => .ok ⟨done, root.at? done⟩
  | name :: rest =>
    match root.at? done with
    | some (.dir _) =>
      if name = ".." then walkFrom root toTheEnd links done.dropLast rest
      else if maxName < name.utf8ByteSize then .error .nameTooLong
      else
        let place := done ++ [name]
        match root.at? place with
        | none => if rest.isEmpty then .ok ⟨place, none⟩ else .error .missing
        | some (.link target) =>
          if rest.isEmpty && !toTheEnd then .ok ⟨place, some (.link target)⟩
          else if _h : links = 0 then .error .tooManyLinks
          else
            let p := Path.ofString target
            walkFrom root toTheEnd (links - 1) (if p.isAbsolute then [] else done)
              (p.parts ++ rest)
        | some _ => walkFrom root toTheEnd links place rest
    | _ => .error .notDirectory
termination_by (links, todo.length)

/-- Walks a path. -/
def walk (t : Tree) (p : Path) (toTheEnd : Bool) : Except Obstacle Spot :=
  if maxPath < p.text.utf8ByteSize then .error .nameTooLong
  else walkFrom t.root toTheEnd maxLinks [] (t.fromRoot p)

/-- What a path names, links followed; nothing if it is not there. -/
def find? (t : Tree) (p : Path) : Option Node :=
  match t.walk p true with
  | .ok spot => spot.node
  | .error _ => none

def isFile (t : Tree) (p : Path) : Bool :=
  match t.find? p with
  | some (.file _) => true
  | _ => false

def isDir (t : Tree) (p : Path) : Bool :=
  match t.find? p with
  | some (.dir _) => true
  | _ => false

/-- Whether a path names a file. That it leads nowhere is an answer; that it
cannot be walked for its length is a fault. -/
def probeFile (t : Tree) (p : Path) : Except FileFault Bool :=
  match t.walk p true with
  | .ok ⟨_, some (.file _)⟩ => .ok true
  | .error .nameTooLong => .error (.nameTooLong p)
  | _ => .ok false

/-- The content of a file. -/
def content? (t : Tree) (p : Path) : Option ByteArray :=
  match t.find? p with
  | some (.file content) => some content
  | _ => none

/-- The place of a directory that is there. -/
def directory (t : Tree) (p : Path) : Except FileFault (List String) :=
  match t.walk p true with
  | .ok ⟨place, some (.dir _)⟩ => .ok place
  | .ok ⟨_, none⟩ => .error (.notFound p)
  | .ok _ => .error (.notDirectory p)
  | .error obstacle => .error (obstacle.fault p)

end Tree

end PullReview
