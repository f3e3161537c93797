import PullReview.Text.Lines

/-!
# Paths

A path is an anchor and a list of components, with empty and `.` components
already gone. `..` components stay until a path is normalised. Two leading
slashes are an anchor of their own, as the standard for such paths allows; in
every comparison of places they mean the same as one.
-/

namespace PullReview

/-- Where a path starts. -/
inductive Anchor where
  | here
  | root
  | doubleRoot
  deriving DecidableEq, Repr, Inhabited

structure Path where
  anchor : Anchor
  parts : List String
  deriving DecidableEq, Repr, Inhabited

namespace Path

/-- The pieces of a text between slashes. -/
def pieces (s : String) : List String := (Text.splitAtEach '/' s.toList).map String.ofList

/-- The components of a path text: its pieces without the empty ones and `.`. -/
def components (s : String) : List String := (pieces s).filter fun p => p ≠ "" && p ≠ "."

def anchorOf (s : String) : Anchor :=
  match s.toList with
  | '/' :: '/' :: '/' :: _ => .root
  | '/' :: '/' :: _ => .doubleRoot
  | '/' :: _ => .root
  | _ => .here

def ofString (s : String) : Path := ⟨anchorOf s, components s⟩

/-- The path of a list of components below the root. -/
def absolute (parts : List String) : Path := ⟨.root, parts⟩

def isAbsolute (p : Path) : Bool := p.anchor ≠ .here

/-- The text of a path; a path that goes nowhere is `.`. -/
def text (p : Path) : String :=
  let body := Text.join "/" p.parts
  match p.anchor with
  | .here => if p.parts.isEmpty then "." else body
  | .root => "/" ++ body
  | .doubleRoot => "//" ++ body

instance : ToString Path := ⟨text⟩

/-- The path `q` as seen from `p`: an absolute path does not depend on `p`. -/
def append (p q : Path) : Path :=
  if q.isAbsolute then q else { p with parts := p.parts ++ q.parts }

/-- The path with one more component. -/
def child (p : Path) (name : String) : Path := { p with parts := p.parts ++ [name] }

def parent (p : Path) : Path := { p with parts := p.parts.dropLast }

/-- One step of a walk below the root: `..` goes back and stays at the root. -/
def step (place : List String) (part : String) : List String :=
  if part = ".." then place.dropLast else place ++ [part]

/-- The place that components lead to from the root, without following links. -/
def walk (parts : List String) : List String := parts.foldl step []

/-- The number of components that two places share from the root on. -/
def sharedDepth : List String → List String → Nat
  | a :: as, b :: bs => if a = b then sharedDepth as bs + 1 else 0
  | _, _ => 0

/-- The way from one place to another: up as far as needed, then down. -/
def between (start target : List String) : List String :=
  let shared := sharedDepth start target
  List.replicate (start.length - shared) ".." ++ target.drop shared

/-- The path `p`, read from the place `workspace`, as a path relative to it in
normal form. -/
def relativeTo (workspace : List String) (p : Path) : String :=
  let place := walk (if p.isAbsolute then p.parts else workspace ++ p.parts)
  (Path.mk .here (between (walk workspace) place)).text

/-- Whether a place is `base` or below it. -/
def isWithin (base place : List String) : Bool := base.isPrefixOf place

end Path

end PullReview
