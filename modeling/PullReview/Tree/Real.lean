import PullReview.Tree.Walk

/-!
# Real places

The real place of a path has no links on its way. It is found whether or not
anything is there: what is not a link leads to itself. Where a link leads back
to itself the rest of the path is taken as it is written; if no walk can pass
such a place, the links go in circles and there is no real place.
-/

namespace PullReview.Tree

/-- How far the resolution of a path has come. -/
structure Resolution where
  place : List String
  /-- whether no link was met that leads back to itself -/
  finished : Bool
  /-- the links met so far; one that is still being resolved has no place -/
  met : List (List String × Option (List String))

/-- How deep links may lead through links. -/
def maxNesting : Nat := 1000

/-- Resolves the components `todo` from the real place `done`. -/
def resolveFrom (root : Node) (nesting : Nat) (met : List (List String × Option (List String)))
    (done todo : List String) : Resolution :=
  match todo with
  | [] => ⟨done, true, met⟩
  | name :: rest =>
    if name = ".." then resolveFrom root nesting met done.dropLast rest
    else
      let next := done ++ [name]
      let asWritten (place : List String) : List String := rest.foldl Path.step place
      match root.at? next with
      | some (.link target) =>
        match met.lookup next with
        | some (some place) => resolveFrom root nesting met place rest
        | some none => ⟨asWritten next, false, met⟩
        | none =>
          if _h : nesting = 0 then ⟨asWritten next, false, met⟩
          else
            let p := Path.ofString target
            let inner := resolveFrom root (nesting - 1) ((next, none) :: met)
              (if p.isAbsolute then [] else done) p.parts
            if inner.finished then
              resolveFrom root nesting ((next, some inner.place) :: inner.met) inner.place rest
            else ⟨asWritten inner.place, false, inner.met⟩
      | _ => resolveFrom root nesting met next rest
termination_by (nesting, todo.length)

/-- The real place of a path; a path that goes in circles gives the place where
it does. -/
def realPlace (t : Tree) (p : Path) : Except (List String) (List String) :=
  let r := resolveFrom t.root maxNesting [] [] (t.fromRoot p)
  if r.finished then .ok r.place
  else match t.walk (.absolute r.place) true with
    | .error .tooManyLinks => .error r.place
    | _ => .ok r.place

end PullReview.Tree
