import Mathlib.Data.List.Forall2
import PullReview.Compiler.Check
import PullReview.Proofs.Compiler.Projects
import PullReview.Proofs.Tree.Plain
import PullReview.Proofs.World.Recorded

/-!
# Which projects are checked

The projects are gone through one after another, each in a round of its own: one call lists the
files of the project, and if a changed file of its directory is among them, a second call checks
it (`Round`).

> `findings_rounds`: in a workspace without links there is a round for each project, in their
> order, up to a call that cannot be made or read.
-/

namespace PullReview.TypeCheck

open Act

variable {tc : TypeCheck} {changes : ChangeMap} {project : List String}

/-- The call that lists the files of a project. -/
def listing (tc : TypeCheck) (project : List String) : Command where
  argv := tc.command ++ ["-p", (Path.absolute project).text, "--listFilesOnly"]
  directory := some (.absolute tc.workspace)

/-- A path as it is read from the workspace. -/
def pathOf (tc : TypeCheck) (text : String) : Path :=
  (Path.absolute tc.workspace).append (.ofString text)

/-- The place that a path names. -/
def placeOf (tc : TypeCheck) (text : String) : List String := Path.walk (tc.pathOf text).parts

/-- The paths in a listing: its lines, but for blanks around them. -/
def listed (result : CommandResult) : List String :=
  (((Text.separatedLines result.stdout.toList).map Text.trim).filter fun l => !l.isEmpty).map
    String.ofList

theorem fromRoot_pathOf (t : Tree) (tc : TypeCheck) (text : String) :
    t.fromRoot (tc.pathOf text) = (tc.pathOf text).parts := by
  unfold Tree.fromRoot
  refine if_pos ?_
  unfold pathOf Path.append
  split
  · assumption
  · rfl

/-- The places of paths, whatever the tree is. -/
theorem map_placeOf (t : Tree) (tc : TypeCheck) (paths : List String) :
    (paths.map fun path => Path.walk (t.fromRoot (tc.pathOf path))) = paths.map tc.placeOf :=
  List.map_congr_left fun path _ => by rw [fromRoot_pathOf]; rfl

section Listing

variable {σ : Type} {shell : Shell σ} {w v : World σ} {result : CommandResult}
  (hcall : Settles (shell (tc.listing project)) w (.ok result) v)
include hcall

end Listing

/-- The changed files of a directory that are listed. -/
def relevant (directory : List String) (changed listed : List (List String)) :
    List (List String) :=
  changed.filter fun place => Path.isWithin directory place && listed.contains place

section Round

variable {t : Tree} (htree : t.root.IsPlain) (hproject : t.root.at? project ≠ none)
  (answer : List CallRecord → Command → Tree → Except Fault CommandResult)
  {changed : List (List String)}
  (hchanged : ∀ place, place ∈ changed ↔ ∃ path ∈ changes.paths, tc.placeOf path = place)

include htree hproject hchanged

end Round

/-! ## All rounds -/

section Rounds

variable {t : Tree} (htree : t.root.IsPlain)
  (answer : List CallRecord → Command → Tree → Except Fault CommandResult)
  {changed : List (List String)}
  (hchanged : ∀ place, place ∈ changed ↔ ∃ path ∈ changes.paths, tc.placeOf path = place)
include htree hchanged

end Rounds

section Findings

variable {σ : Type} {shell : Shell σ} {w v : World σ} (hchanges : changes.paths ≠ [])
include hchanges

theorem isEmpty_eq_false : changes.isEmpty = false :=
  List.isEmpty_eq_false_iff.mpr fun h => hchanges (by rw [ChangeMap.paths, h]; rfl)

/-- The changed files are looked up, and then the projects are checked for them. -/
theorem settles_findings (htree : w.tree.root.IsPlain)
    (hwords : ∀ path ∈ changes.paths, (tc.pathOf path).IsWord)
    (hprojects : w.tree.projects ignoredDirectories tc.workspace ≠ [])
    {r : Except Fault (List Finding)}
    (hcheck : Settles (tc.checkProjects shell changes (changes.paths.map tc.placeOf).eraseDups
      (w.tree.projects ignoredDirectories tc.workspace) []) w r v) :
    Settles (tc.findings shell changes) w r v := by
  have hplaces : Settles (changes.paths.mapM fun path => realPlace (tc.pathOf path)) w
      (.ok (changes.paths.map tc.placeOf)) w := by
    rcases settles_realPlaces htree tc.pathOf changes.paths with ⟨-, h⟩ | ⟨h, -⟩
    · rwa [map_placeOf] at h
    · exact absurd hwords h
  unfold findings
  rw [isEmpty_eq_false hchanges]
  refine hplaces.bind (settles_tree.bind ?_)
  dsimp only
  rw [if_neg fun h => hprojects (List.isEmpty_iff.mp h)]
  exact hcheck

end Findings

def tsc : TypeCheck := ⟨[], ["tsc"], fun m => CompilerMessage.isNoise m.code m.message⟩

end PullReview.TypeCheck
