import PullReview.Proofs.Named
import PullReview.Tree.Basic

/-!
# Entries of directories

A directory of a file system has at most one entry of a name (`HasDistinctNames`), so looking a
name up and listing the entries say the same (`child?_eq_some_iff`). Below a directory a place
is looked at name by name (`at?_append`), and what a node is by itself, without what is below
it, is its `Kind`.
-/

namespace PullReview

namespace Node

/-- What a node is, without what is below it. -/
inductive Kind where
  | file (content : ByteArray)
  | link (target : String)
  | dir

def kind : Node → Kind
  | .file content => .file content
  | .link target => .link target
  | .dir _ => .dir

theorem kind_eq_dir {node : Node} (h : node.kind = .dir) : ∃ entries, node = .dir entries := by
  cases node with
  | dir entries => exact ⟨entries, rfl⟩
  | file | link => exact absurd h (by simp [kind])

theorem kind_eq_link {node : Node} {target : String} (h : node.kind = .link target) :
    node = .link target := by
  cases node with
  | link other => exact congrArg Node.link (Kind.link.inj h)
  | file | dir => exact absurd h (by simp [kind])

/-- The names in each directory differ. -/
inductive HasDistinctNames : Node → Prop
  | file (content : ByteArray) : HasDistinctNames (.file content)
  | link (target : String) : HasDistinctNames (.link target)
  | dir (entries : List (String × Node)) : (entries.map (·.1)).Nodup →
      (∀ name node, (name, node) ∈ entries → HasDistinctNames node) →
      HasDistinctNames (.dir entries)

theorem HasDistinctNames.nodup {entries : List (String × Node)}
    (h : (Node.dir entries).HasDistinctNames) : (entries.map (·.1)).Nodup := by
  cases h with
  | dir _ hnodup _ => exact hnodup

theorem HasDistinctNames.of_mem {entries : List (String × Node)} {name : String} {node : Node}
    (h : (Node.dir entries).HasDistinctNames) (hmem : (name, node) ∈ entries) :
    node.HasDistinctNames := by
  cases h with
  | dir _ _ hbelow => exact hbelow name node hmem

@[simp]
theorem hasDistinctNames_file (content : ByteArray) : (Node.file content).HasDistinctNames :=
  .file content

@[simp]
theorem hasDistinctNames_link (target : String) : (Node.link target).HasDistinctNames :=
  .link target

@[simp]
theorem hasDistinctNames_dir_iff {entries : List (String × Node)} :
    (Node.dir entries).HasDistinctNames ↔
      (entries.map (·.1)).Nodup ∧ ∀ e ∈ entries, e.2.HasDistinctNames :=
  ⟨fun h => ⟨h.nodup, fun _ hmem => h.of_mem hmem⟩,
    fun h => .dir _ h.1 fun _ _ hmem => h.2 _ hmem⟩

/-! ## Looking names up -/

theorem child?_cons (entry : String × Node) (rest : List (String × Node)) (name : String) :
    (Node.dir (entry :: rest)).child? name
      = if entry.1 = name then some entry.2 else (Node.dir rest).child? name :=
  Named.get?_cons entry rest name

theorem mem_of_child? {entries : List (String × Node)} {name : String} {node : Node}
    (h : (Node.dir entries).child? name = some node) : (name, node) ∈ entries := by
  induction entries with
  | nil => exact absurd h (by simp [child?])
  | cons entry rest ih =>
    obtain ⟨first, below⟩ := entry
    rw [child?_cons] at h
    split at h
    · next hname =>
      obtain rfl := Option.some.inj h
      obtain rfl : first = name := hname
      exact List.mem_cons_self ..
    · exact List.mem_cons_of_mem _ (ih h)

/-- Nothing is found under a name exactly if no entry has it. -/
theorem child?_eq_none_iff {entries : List (String × Node)} {name : String} :
    (Node.dir entries).child? name = none ↔ ∀ e ∈ entries, e.1 ≠ name := by
  unfold child?
  rw [Option.map_eq_none_iff, List.find?_eq_none]
  simp

theorem child?_eq_some_iff {entries : List (String × Node)} {name : String} {node : Node}
    (h : (entries.map (·.1)).Nodup) :
    (Node.dir entries).child? name = some node ↔ (name, node) ∈ entries := by
  refine ⟨mem_of_child?, fun hmem => ?_⟩
  induction entries with
  | nil => exact absurd hmem List.not_mem_nil
  | cons entry rest ih =>
    rw [List.map_cons, List.nodup_cons] at h
    rw [child?_cons]
    rcases List.mem_cons.mp hmem with rfl | hrest
    · rw [if_pos rfl]
    · have hne : entry.1 ≠ name := fun heq =>
        h.1 (heq ▸ List.mem_map_of_mem (f := (·.1)) hrest)
      rw [if_neg hne]
      exact ih h.2 hrest

/-! ## Looking at places -/

theorem at?_cons (node : Node) (name : String) (rest : List String) :
    node.at? (name :: rest) = (node.child? name).bind (·.at? rest) := rfl

theorem at?_append (node : Node) (front back : List String) :
    node.at? (front ++ back) = (node.at? front).bind (·.at? back) := by
  induction front generalizing node with
  | nil => rfl
  | cons name front ih =>
    rw [List.cons_append, at?_cons, at?_cons]
    cases node.child? name with
    | none => rfl
    | some below => exact ih below

theorem at?_concat (node : Node) (front : List String) (name : String) :
    node.at? (front ++ [name]) = (node.at? front).bind (·.child? name) := by
  rw [at?_append]
  congr 1
  funext below
  rw [at?_cons]
  exact Option.bind_fun_some _

theorem HasDistinctNames.of_at? {root node : Node} {place : List String}
    (h : root.HasDistinctNames) (hat : root.at? place = some node) : node.HasDistinctNames := by
  induction place generalizing root with
  | nil => exact Option.some.inj hat ▸ h
  | cons name rest ih =>
    rw [at?_cons] at hat
    obtain ⟨below, hchild, hbelow⟩ := Option.bind_eq_some_iff.mp hat
    cases root with
    | file | link => exact absurd hchild (by simp [child?])
    | dir entries => exact ih (h.of_mem (mem_of_child? hchild)) hbelow

/-- What is at a place, without what is below it. -/
def kindAt (root : Node) (place : List String) : Option Kind := (root.at? place).map kind

theorem exists_of_kindAt {root root' : Node} {place : List String} {node : Node}
    (h : root'.kindAt place = root.kindAt place) (hnode : root.at? place = some node) :
    ∃ node', root'.at? place = some node' ∧ node'.kind = node.kind := by
  unfold kindAt at h
  rw [hnode] at h
  exact Option.map_eq_some_iff.mp h

/-- Where there is something, there is something above it. -/
theorem at?_dropLast {root : Node} {place : List String} (h : root.at? place ≠ none) :
    root.at? place.dropLast ≠ none := by
  rcases List.eq_nil_or_concat place with rfl | ⟨front, name, rfl⟩
  · exact h
  · rw [List.concat_eq_append] at h ⊢
    rw [List.dropLast_concat]
    intro hnone
    rw [at?_concat, hnone] at h
    exact h rfl

end Node

end PullReview
