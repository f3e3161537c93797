import PullReview.Proofs.Tree.Entries
import PullReview.Tree.Walk

/-!
# Walks that arrive

`Walks` says step by step how a walk comes to a spot, and `walkFrom_eq_ok_iff` that the walks
that arrive are these. What a walk meets are nodes as they are by themselves; so where a tree
has something new at a place that was free, the walk to that place arrives there all the same
(`Walks.of_new`).
-/

namespace PullReview.Tree

variable {root : Node} {toTheEnd : Bool} {links : Nat} {done todo rest : List String}
  {name : String} {spot : Spot}

/-- A name can be looked up: it is that of an entry, and in a directory. -/
structure CanStep (root : Node) (done : List String) (name : String) : Prop where
  inDirectory : ∃ entries, root.at? done = some (.dir entries)
  proper : name ≠ ".."
  short : name.utf8ByteSize ≤ maxName

/-- How a walk arrives: by components that are left, by at most so many links. -/
inductive Walks (root : Node) (toTheEnd : Bool) :
    Nat → List String → List String → Spot → Prop
  | here (links : Nat) (done : List String) :
      Walks root toTheEnd links done [] ⟨done, root.at? done⟩
  | back {links : Nat} {done rest : List String} {spot : Spot} :
      (∃ entries, root.at? done = some (.dir entries)) →
      Walks root toTheEnd links done.dropLast rest spot →
      Walks root toTheEnd links done (".." :: rest) spot
  | free {links : Nat} {done : List String} {name : String} :
      CanStep root done name → root.at? (done ++ [name]) = none →
      Walks root toTheEnd links done [name] ⟨done ++ [name], none⟩
  | stop {links : Nat} {done : List String} {name target : String} :
      CanStep root done name → root.at? (done ++ [name]) = some (.link target) →
      toTheEnd = false →
      Walks root toTheEnd links done [name] ⟨done ++ [name], some (.link target)⟩
  | follow {links : Nat} {done rest : List String} {name target : String} {spot : Spot} :
      CanStep root done name → root.at? (done ++ [name]) = some (.link target) →
      (rest = [] → toTheEnd = true) →
      Walks root toTheEnd links (if (Path.ofString target).isAbsolute then [] else done)
        ((Path.ofString target).parts ++ rest) spot →
      Walks root toTheEnd (links + 1) done (name :: rest) spot
  | enter {links : Nat} {done rest : List String} {name : String} {node : Node} {spot : Spot} :
      CanStep root done name → root.at? (done ++ [name]) = some node →
      (∀ target, node ≠ .link target) →
      Walks root toTheEnd links (done ++ [name]) rest spot →
      Walks root toTheEnd links done (name :: rest) spot

theorem Walks.of_walkFrom (h : walkFrom root toTheEnd links done todo = .ok spot) :
    Walks root toTheEnd links done todo spot := by
  fun_induction walkFrom root toTheEnd links done todo with
  | case1 links done =>
    obtain rfl := Except.ok.inj h
    exact .here links done
  | case2 links done rest entries hdir ih => exact .back ⟨entries, hdir⟩ (ih h)
  | case4 links done name rest entries hdir hproper hshort place hnone hrest =>
    obtain rfl := Except.ok.inj h
    obtain rfl := List.isEmpty_iff.mp hrest
    exact .free ⟨⟨entries, hdir⟩, hproper, Nat.le_of_not_lt hshort⟩ hnone
  | case6 links done name rest entries hdir hproper hshort place target hlink hlast =>
    obtain rfl := Except.ok.inj h
    rw [Bool.and_eq_true, Bool.not_eq_true'] at hlast
    obtain rfl := List.isEmpty_iff.mp hlast.1
    exact .stop ⟨⟨entries, hdir⟩, hproper, Nat.le_of_not_lt hshort⟩ hlink hlast.2
  | case8 links done name rest entries hdir hproper hshort place target hlink hlast hlinks p ih =>
    obtain ⟨fewer, rfl⟩ := Nat.exists_eq_succ_of_ne_zero hlinks
    refine .follow ⟨⟨entries, hdir⟩, hproper, Nat.le_of_not_lt hshort⟩ hlink ?_ ?_
    · rintro rfl
      simpa using hlast
    · exact ih h
  | case9 links done name rest entries hdir hproper hshort place node hnode hplace ih =>
    exact .enter ⟨⟨entries, hdir⟩, hproper, Nat.le_of_not_lt hshort⟩ hplace hnode (ih h)
  | case3 | case5 | case7 | case10 => exact absurd h (by simp)

theorem Walks.walkFrom (h : Walks root toTheEnd links done todo spot) :
    walkFrom root toTheEnd links done todo = .ok spot := by
  induction h with
  | here links done => rw [Tree.walkFrom]
  | back hdir _ ih =>
    obtain ⟨entries, hdir⟩ := hdir
    rw [Tree.walkFrom, hdir]
    exact ih
  | free hstep hnone =>
    obtain ⟨⟨entries, hdir⟩, hproper, hshort⟩ := hstep
    rw [Tree.walkFrom, hdir]
    simp only [if_neg hproper, if_neg (Nat.not_lt.mpr hshort), hnone]
    rfl
  | stop hstep hlink hend =>
    obtain ⟨⟨entries, hdir⟩, hproper, hshort⟩ := hstep
    rw [Tree.walkFrom, hdir]
    simp only [if_neg hproper, if_neg (Nat.not_lt.mpr hshort), hlink, hend]
    rfl
  | @follow links done rest name target spot hstep hlink hlast _ ih =>
    obtain ⟨⟨entries, hdir⟩, hproper, hshort⟩ := hstep
    have hgo : ¬ (rest.isEmpty && !toTheEnd) = true := by
      intro h
      rw [Bool.and_eq_true, Bool.not_eq_true', List.isEmpty_iff] at h
      rw [hlast h.1] at h
      exact absurd h.2 (by simp)
    rw [Tree.walkFrom, hdir]
    simp only [if_neg hproper, if_neg (Nat.not_lt.mpr hshort), hlink, if_neg hgo]
    rw [dif_neg (Nat.succ_ne_zero links)]
    exact ih
  | @enter links done rest name node spot hstep hnode hlink _ ih =>
    obtain ⟨⟨entries, hdir⟩, hproper, hshort⟩ := hstep
    rw [Tree.walkFrom, hdir]
    simp only [if_neg hproper, if_neg (Nat.not_lt.mpr hshort), hnode]
    cases node with
    | link target => exact absurd rfl (hlink target)
    | file | dir => exact ih

/-- The walks that arrive. -/
theorem walkFrom_eq_ok_iff :
    walkFrom root toTheEnd links done todo = .ok spot ↔
      Walks root toTheEnd links done todo spot :=
  ⟨Walks.of_walkFrom, Walks.walkFrom⟩

theorem walk_eq_ok_iff {t : Tree} {p : Path} :
    t.walk p toTheEnd = .ok spot ↔
      p.text.utf8ByteSize ≤ maxPath ∧ Walks t.root toTheEnd maxLinks [] (t.fromRoot p) spot := by
  unfold walk
  by_cases hlong : maxPath < p.text.utf8ByteSize
  · rw [if_pos hlong]
    exact ⟨fun h => absurd h (by simp), fun h => absurd h.1 (Nat.not_le.mpr hlong)⟩
  · rw [if_neg hlong, walkFrom_eq_ok_iff]
    exact ⟨fun h => ⟨Nat.le_of_not_lt hlong, h⟩, fun h => h.2⟩

theorem isFile_of_probeFile {t : Tree} {p : Path} {found : Bool} (h : t.probeFile p = .ok found) :
    t.isFile p = found := by
  unfold probeFile at h
  unfold isFile find?
  split at h
  · next hwalk =>
    rw [hwalk]
    exact Except.ok.inj h
  · exact absurd h (by simp)
  · next hfile _ =>
    obtain rfl := Except.ok.inj h
    cases hwalk : t.walk p true with
    | error obstacle => rfl
    | ok spot =>
      obtain ⟨place, node⟩ := spot
      match node with
      | none | some (.dir _) | some (.link _) => rfl
      | some (.file content) => exact absurd hwalk (hfile place content)

/-! ## Where walks arrive -/

/-- At the spot is what is at the place. -/
theorem Walks.node_eq (h : Walks root toTheEnd links done todo spot) :
    spot.node = root.at? spot.place := by
  induction h with
  | here => rfl
  | free _ hnone => exact hnone.symm
  | stop _ hlink => exact hlink.symm
  | back _ _ ih | follow _ _ _ _ ih | enter _ _ _ _ ih => exact ih

/-- A walk to the very end and one that stops at a last link part at that link only. -/
theorem Walks.toLast (h : Walks root true links done todo spot) :
    Walks root false links done todo spot ∨
      ∃ place target, Walks root false links done todo ⟨place, some (.link target)⟩ := by
  induction h with
  | here links done => exact Or.inl (.here links done)
  | back hdir _ ih =>
    rcases ih with hwalk | ⟨place, target, hwalk⟩
    · exact Or.inl (.back hdir hwalk)
    · exact Or.inr ⟨place, target, .back hdir hwalk⟩
  | free hstep hnone => exact Or.inl (.free hstep hnone)
  | stop _ _ hend => exact absurd hend (by simp)
  | @follow links done rest name target spot hstep hlink _ _ ih =>
    by_cases hrest : rest = []
    · subst hrest
      exact Or.inr ⟨_, target, .stop hstep hlink rfl⟩
    · rcases ih with hwalk | ⟨place, other, hwalk⟩
      · exact Or.inl (.follow hstep hlink (fun h => absurd h hrest) hwalk)
      · exact Or.inr ⟨place, other, .follow hstep hlink (fun h => absurd h hrest) hwalk⟩
  | enter hstep hnode hlink _ ih =>
    rcases ih with hwalk | ⟨place, target, hwalk⟩
    · exact Or.inl (.enter hstep hnode hlink hwalk)
    · exact Or.inr ⟨place, target, .enter hstep hnode hlink hwalk⟩

/-- A place that is free is the next one below a directory. -/
theorem Walks.free_below (h : Walks root toTheEnd links done todo spot) (hfree : spot.node = none)
    (hdone : root.at? done ≠ none) :
    ∃ front name entries, spot.place = front ++ [name] ∧ root.at? front = some (.dir entries) ∧
      (Node.dir entries).child? name = none := by
  induction h with
  | here => exact absurd hfree hdone
  | back _ _ ih => exact ih hfree (Node.at?_dropLast hdone)
  | @free links done name hstep hnone =>
    obtain ⟨⟨entries, hdir⟩, -, -⟩ := hstep
    rw [Node.at?_concat, hdir] at hnone
    exact ⟨done, name, entries, rfl, hdir, hnone⟩
  | stop => exact absurd hfree (by simp)
  | follow _ _ _ _ ih =>
    refine ih hfree ?_
    split
    · exact Option.some_ne_none root
    · exact hdone
  | enter _ hnode _ _ ih =>
    refine ih hfree ?_
    rw [hnode]
    exact Option.some_ne_none _

/-! ## Walks to what is new -/

section New

variable {root' : Node}

/-- A walk to a free place of one tree arrives there in another one, if that differs from it
nowhere but in what is at this place, which is no link. -/
theorem Walks.of_new (h : Walks root toTheEnd links done todo spot) (hfree : spot.node = none)
    (hsame : ∀ place, place ≠ spot.place → root'.kindAt place = root.kindAt place)
    (hnew : ∀ target, root'.at? spot.place ≠ some (.link target)) :
    Walks root' toTheEnd links done todo ⟨spot.place, root'.at? spot.place⟩ := by
  -- what the walk meets on its way is there, so it is not at the free place
  have hempty : root.at? spot.place = none := h.node_eq ▸ hfree
  have hmet : ∀ {place node}, root.at? place = some node →
      ∃ node', root'.at? place = some node' ∧ node'.kind = node.kind := by
    intro place node hnode
    refine Node.exists_of_kindAt (hsame place fun heq => ?_) hnode
    rw [heq, hempty] at hnode
    exact absurd hnode (by simp)
  have hdir : ∀ {place}, (∃ entries, root.at? place = some (.dir entries)) →
      ∃ entries, root'.at? place = some (.dir entries) := by
    rintro place ⟨entries, hentries⟩
    obtain ⟨node, hnode, hkind⟩ := hmet hentries
    obtain ⟨entries', rfl⟩ := Node.kind_eq_dir hkind
    exact ⟨entries', hnode⟩
  have hstep : ∀ {done name}, CanStep root done name → CanStep root' done name :=
    fun hcan => ⟨hdir hcan.inDirectory, hcan.proper, hcan.short⟩
  induction h with
  | here links done => exact .here links done
  | back hback _ ih => exact .back (hdir hback) (ih hfree hsame hnew hempty)
  | @free links done name hcan _ =>
    cases hnode : root'.at? (done ++ [name]) with
    | none => exact .free (hstep hcan) hnode
    | some node =>
      have hlink : ∀ target, node ≠ .link target := fun target h =>
        hnew target (by rw [← h]; exact hnode)
      have hthere : Walks root' toTheEnd links (done ++ [name]) [] ⟨done ++ [name], some node⟩ :=
        hnode ▸ .here links (done ++ [name])
      exact .enter (hstep hcan) hnode hlink hthere
  | stop => exact absurd hfree (by simp)
  | follow hcan hlink hlast _ ih =>
    obtain ⟨node, hnode, hkind⟩ := hmet hlink
    obtain rfl := Node.kind_eq_link hkind
    exact .follow (hstep hcan) hnode hlast (ih hfree hsame hnew hempty)
  | enter hcan hnode hlink _ ih =>
    obtain ⟨other, hother, hkind⟩ := hmet hnode
    have hnoLink : ∀ target, other ≠ .link target := by
      rintro target rfl
      exact hlink target (Node.kind_eq_link hkind.symm)
    exact .enter (hstep hcan) hother hnoLink (ih hfree hsame hnew hempty)

end New

end PullReview.Tree
