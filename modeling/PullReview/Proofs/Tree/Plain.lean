import PullReview.Proofs.Path
import PullReview.Proofs.Tree.Entries
import PullReview.Proofs.World.Scene

/-!
# Trees without links

In a plain tree there are no links, and each entry has a name of its own, as a file system allows
it. So the real place of a path is known from the path alone: its components are gone along one
by one, and `..` leads back (`settles_realPlace`). The place of an entry leads to itself.
-/

namespace PullReview

/-- Names that lead down and hold no byte that ends words. -/
def IsEntryName (name : String) : Prop := name ≠ ".." ∧ '\x00' ∉ name.toList

/-- No component holds the byte that ends words. -/
def Path.IsWord (p : Path) : Prop := ∀ name ∈ p.parts, '\x00' ∉ name.toList

instance (p : Path) : Decidable p.IsWord := inferInstanceAs (Decidable (∀ name ∈ p.parts, _))

/-- No links are in the tree, and its entries have names for entries. -/
structure Node.IsPlain (root : Node) : Prop where
  distinct : root.HasDistinctNames
  links : ∀ place target, root.at? place ≠ some (.link target)
  names : ∀ place, root.at? place ≠ none → ∀ name ∈ place, IsEntryName name

namespace Node

@[simp]
theorem isPlain_file (content : ByteArray) : (Node.file content).IsPlain := by
  refine ⟨.file content, ?_, ?_⟩
  · rintro (_ | ⟨name, rest⟩) target
    · simp [at?]
    · simp [at?, child?]
  · rintro (_ | ⟨name, rest⟩) hplace
    · exact fun name hname => absurd hname List.not_mem_nil
    · exact absurd rfl hplace

/-- What is below an entry is plain. -/
theorem IsPlain.of_at? {root node : Node} {place : List String} (h : root.IsPlain)
    (hat : root.at? place = some node) : node.IsPlain := by
  have hbelow : ∀ rest, root.at? (place ++ rest) = node.at? rest := fun rest => by
    rw [at?_append, hat, Option.bind_some]
  refine ⟨h.distinct.of_at? hat, fun rest target => ?_, fun rest hrest name hname => ?_⟩
  · rw [← hbelow rest]
    exact h.links _ target
  · rw [← hbelow rest] at hrest
    exact h.names _ hrest name (List.mem_append_right place hname)

@[simp]
theorem isPlain_dir_iff {entries : List (String × Node)} :
    (Node.dir entries).IsPlain ↔
      (entries.map (·.1)).Nodup ∧ ∀ e ∈ entries, IsEntryName e.1 ∧ e.2.IsPlain := by
  constructor
  · intro h
    refine ⟨h.distinct.nodup, fun e he => ?_⟩
    have hat : (Node.dir entries).at? [e.1] = some e.2 := by
      rw [at?_cons, (child?_eq_some_iff h.distinct.nodup).mpr he]
      rfl
    refine ⟨h.names [e.1] ?_ e.1 (List.mem_singleton_self _), h.of_at? hat⟩
    rw [hat]
    exact Option.some_ne_none _
  · rintro ⟨hdistinct, hentries⟩
    refine ⟨.dir _ hdistinct fun _ _ hmem => (hentries _ hmem).2.distinct, ?_, ?_⟩
    · rintro (_ | ⟨name, rest⟩) target
      · simp [at?]
      · rw [at?_cons]
        cases hchild : (Node.dir entries).child? name with
        | none => simp
        | some below => exact (hentries _ (mem_of_child? hchild)).2.links rest target
    · rintro (_ | ⟨name, rest⟩) hplace
      · exact fun name hname => absurd hname List.not_mem_nil
      · rw [at?_cons] at hplace
        cases hchild : (Node.dir entries).child? name with
        | none =>
          rw [hchild] at hplace
          exact absurd rfl hplace
        | some below =>
          rw [hchild] at hplace
          obtain ⟨hname, hbelow⟩ := hentries _ (mem_of_child? hchild)
          exact List.forall_mem_cons.mpr ⟨hname, hbelow.names rest hplace⟩

end Node

namespace Tree

variable {t : Tree}

theorem resolveFrom_plain (h : t.root.IsPlain) (nesting : Nat)
    (met : List (List String × Option (List String))) (done todo : List String) :
    resolveFrom t.root nesting met done todo = ⟨todo.foldl Path.step done, true, met⟩ := by
  induction todo generalizing done with
  | nil => rw [resolveFrom, List.foldl_nil]
  | cons name rest ih =>
    rw [resolveFrom, List.foldl_cons, Path.step]
    by_cases hup : name = ".."
    · rw [if_pos hup, if_pos hup, ih]
    · rw [if_neg hup, if_neg hup]
      cases hat : t.root.at? (done ++ [name]) with
      | none => simp only [hat, ih]
      | some node =>
        cases node with
        | link target => exact absurd hat (h.links _ target)
        | file | dir => simp only [hat, ih]

theorem realPlace_plain (h : t.root.IsPlain) (p : Path) :
    t.realPlace p = .ok (Path.walk (t.fromRoot p)) := by
  unfold realPlace
  rw [resolveFrom_plain h]
  rfl

end Tree

namespace Act

variable {σ : Type} {w : World σ} {p : Path}

theorem settles_realPlace (htree : w.tree.root.IsPlain) (hp : p.IsWord) :
    Settles (realPlace p) w (.ok (Path.walk (w.tree.fromRoot p))) w := by
  have hword : p.parts.any (fun name => name.toList.contains '\x00') = false := by
    rw [List.any_eq_false]
    exact fun name hname h => hp name hname (List.contains_iff_mem.mp h)
  unfold realPlace
  rw [hword, if_neg Bool.false_ne_true]
  refine settles_tree.bind ?_
  rw [Tree.realPlace_plain htree]
  exact settles_pure _

/-- A path that is no word for the system is refused. -/
theorem settles_realPlace_error (hp : ¬ p.IsWord) :
    Settles (realPlace p) w (.error (.data .endOfWord)) w := by
  have hword : p.parts.any (fun name => name.toList.contains '\x00') = true := by
    by_contra h
    refine hp fun name hname hmem => h (List.any_eq_true.mpr ⟨name, hname, ?_⟩)
    exact List.contains_iff_mem.mpr hmem
  unfold realPlace
  rw [hword, if_pos rfl]
  exact (settles_throw _).bind_error _

/-- A list of paths is refused for one of them, or each of them has its place. -/
theorem settles_realPlaces {ι : Type} (htree : w.tree.root.IsPlain) (path : ι → Path)
    (items : List ι) :
    (∀ i ∈ items, (path i).IsWord) ∧
        Settles (items.mapM fun i => realPlace (path i)) w
          (.ok (items.map fun i => Path.walk (w.tree.fromRoot (path i)))) w ∨
      ¬ (∀ i ∈ items, (path i).IsWord) ∧
        Settles (items.mapM fun i => realPlace (path i)) w (.error (.data .endOfWord)) w := by
  induction items with
  | nil =>
    rw [List.mapM_nil]
    exact Or.inl ⟨fun i hi => absurd hi List.not_mem_nil, settles_pure []⟩
  | cons i rest ih =>
    rw [List.mapM_cons, List.forall_mem_cons]
    by_cases hi : (path i).IsWord
    · have hfirst := settles_realPlace htree hi
      rcases ih with ⟨hrest, hsettles⟩ | ⟨hrest, hsettles⟩
      · exact Or.inl ⟨⟨hi, hrest⟩, hfirst.bind (hsettles.bind (settles_pure _))⟩
      · exact Or.inr ⟨fun h => hrest h.2, hfirst.bind (hsettles.bind_error _)⟩
    · exact Or.inr ⟨fun h => hi h.1, (settles_realPlace_error hi).bind_error _⟩

end Act

end PullReview
