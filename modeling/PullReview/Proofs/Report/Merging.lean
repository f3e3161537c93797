import Mathlib.Data.List.Basic
import Mathlib.Data.List.Nodup
import Mathlib.Logic.Basic
import PullReview.Proofs.Number.Digits
import PullReview.Proofs.Report.Order

/-!
# Merging, exactly

`IsMerge fs r` says all that merging the findings `fs` owes to its result, without saying how
it is done: of findings that are the same the first is kept, those kept are in order, those
that are tied in it stand as they came, and the two parts hold the findings of the whole by
their severity.

> `eq_ofFindings_iff`: merging gives the one result of which this is true.

What is merged already can be merged again, with anything else:

> `ofFindings_all_append`: merging two results gives what merging their findings at once gives.

For the first, a place among findings that are tied is a place among the findings merged
(`pairwise_idxOf_distinct`), which makes the order a strict one. For the second, findings merged
behind others lose those that are the same as one in front (`distinct_append`), whatever order
either part is in, and sorting the parts first is no harm (`mergeSort_append_mergeSort`).
-/

namespace PullReview

/-! ## The texts that tell findings apart -/

/-- Lines have different texts, and none of them has the text that stands for no line. -/
theorem lineText_injective {a b : Option Int} (h : lineText a = lineText b) : a = b := by
  have hword : ∀ n : Int, toString n ≠ "no-line" := by
    intro n hn
    have hin : 'n' ∈ (toString n).toList := by rw [hn]; decide
    rcases mem_intText hin with hsign | hdigit
    · exact absurd hsign (by decide)
    · exact absurd hdigit (by decide)
  cases a with
  | none =>
    cases b with
    | none => rfl
    | some n => exact absurd h.symm (hword n)
  | some m =>
    cases b with
    | none => exact absurd h (hword m)
    | some n => exact congrArg some (intText_injective h)

namespace Finding

/-- The texts of tool, file, line and rule. -/
def key (f : Finding) : String × String × String × String :=
  (f.tool, f.file, lineText f.line, f.rule)

/-- **The texts tell apart just what is not the same**, no line and line zero included. -/
theorem key_eq_iff {f g : Finding} : f.key = g.key ↔ f.identity = g.identity := by
  constructor
  · intro h
    simp only [key, Prod.mk.injEq] at h
    obtain ⟨htool, hfile, hline, hrule⟩ := h
    unfold identity
    rw [htool, hfile, lineText_injective hline, hrule]
  · intro h
    simp only [identity, Identity.mk.injEq] at h
    obtain ⟨htool, hfile, hline, hrule⟩ := h
    unfold key
    rw [htool, hfile, hline, hrule]

/-- Neither of two findings has to stand in front of the other if file, position and tool
agree. -/
theorem tied_iff_same {f g : Finding} :
    tied precedes f g = true ↔ f.file = g.file ∧ f.position = g.position ∧ f.tool = g.tool := by
  rw [tied_iff, precedes_iff, precedes_iff]
  constructor
  · rintro ⟨hlt | ⟨hfile, hfg⟩, hgt | ⟨hfile', hgf⟩⟩
    · exact absurd hgt (String.lt_asymm hlt)
    · exact absurd (hfile' ▸ hlt) (String.lt_irrefl _)
    · exact absurd (hfile ▸ hgt) (String.lt_irrefl _)
    · rcases hfg with hfg | ⟨hposition, hfg⟩
      · rcases hgf with hgf | ⟨hposition, _⟩ <;> omega
      · rcases hgf with hgf | ⟨_, hgf⟩
        · omega
        · exact ⟨hfile, hposition, String.le_antisymm hfg hgf⟩
  · rintro ⟨hfile, hposition, htool⟩
    exact ⟨Or.inr ⟨hfile, Or.inr ⟨hposition, htool ▸ String.le_refl _⟩⟩,
      Or.inr ⟨hfile.symm, Or.inr ⟨hposition.symm, htool ▸ String.le_refl _⟩⟩⟩

end Finding

namespace ReviewResult

/-! ## The findings that are kept -/

section Distinct

variable {fs : List Finding} {seen : List Finding.Identity}

theorem distinct_cons_seen {f : Finding} (h : f.identity ∈ seen) :
    distinct (f :: fs) seen = distinct fs seen := by
  rw [distinct, if_pos (List.contains_iff_mem.mpr h)]

theorem distinct_cons_new {f : Finding} (h : f.identity ∉ seen) :
    distinct (f :: fs) seen = f :: distinct fs (f.identity :: seen) := by
  rw [distinct, if_neg fun hin => h (List.contains_iff_mem.mp hin)]

/-- Of the findings that are kept no two are the same. -/
theorem pairwise_distinct :
    ∀ (fs : List Finding) (seen : List Finding.Identity),
      (distinct fs seen).Pairwise fun f g => f.identity ≠ g.identity := by
  intro fs
  induction fs with
  | nil => intro seen; exact List.Pairwise.nil
  | cons f fs ih =>
    intro seen
    unfold distinct
    split
    · exact ih seen
    · refine List.Pairwise.cons (fun g hg hsame => ?_) (ih _)
      -- the first one counts as seen for the others
      exact ((mem_distinct_iff fs _).mp hg).1 (hsame ▸ List.mem_cons_self ..)

/-- The findings that are kept stay in the order in which they came first. -/
theorem pairwise_idxOf_distinct :
    ∀ (fs : List Finding) (seen : List Finding.Identity),
      (distinct fs seen).Pairwise fun f g => fs.idxOf f < fs.idxOf g := by
  intro fs
  induction fs with
  | nil => intro seen; exact List.Pairwise.nil
  | cons f fs ih =>
    intro seen
    -- a finding kept of the rest is not the first one again
    have hlater : ∀ (seen : List Finding.Identity), f.identity ∈ seen → ∀ g ∈ distinct fs seen,
        (f :: fs).idxOf g = fs.idxOf g + 1 := by
      intro seen hf g hg
      have hne : f ≠ g := fun hfg => ((mem_distinct_iff fs seen).mp hg).1 (hfg ▸ hf)
      exact List.idxOf_cons_ne fs hne
    have hrest : ∀ (seen : List Finding.Identity), f.identity ∈ seen →
        (distinct fs seen).Pairwise fun g h => (f :: fs).idxOf g < (f :: fs).idxOf h := by
      intro seen hf
      refine (ih seen).imp_of_mem fun hg hh hlt => ?_
      rw [hlater seen hf _ hg, hlater seen hf _ hh]
      exact Nat.succ_lt_succ hlt
    unfold distinct
    split
    · next hf => exact hrest seen (List.contains_iff_mem.mp hf)
    · refine List.Pairwise.cons (fun g hg => ?_) (hrest _ (List.mem_cons_self ..))
      rw [List.idxOf_cons_self, hlater _ (List.mem_cons_self ..) g hg]
      exact Nat.succ_pos _

/-- Every finding is the same as one that is the first of its kind. -/
theorem exists_isFirst {f : Finding} :
    ∀ {fs : List Finding}, f ∈ fs → ∃ g, g.identity = f.identity ∧ IsFirst fs g := by
  intro fs
  induction fs with
  | nil => intro h; exact absurd h List.not_mem_nil
  | cons g fs ih =>
    intro h
    by_cases hsame : g.identity = f.identity
    · exact ⟨g, hsame, isFirst_cons.mpr (Or.inl rfl)⟩
    · rcases List.mem_cons.mp h with rfl | hrest
      · exact absurd rfl hsame
      · obtain ⟨first, hfirst, hkept⟩ := ih hrest
        exact ⟨first, hfirst, isFirst_cons.mpr (Or.inr ⟨hfirst ▸ hsame, hkept⟩)⟩

/-! ## Findings behind others -/

/-- Of what was seen only the members count. -/
theorem distinct_congr :
    ∀ (fs : List Finding) {seen seen' : List Finding.Identity},
      (∀ i, i ∈ seen ↔ i ∈ seen') → distinct fs seen = distinct fs seen' := by
  intro fs
  induction fs with
  | nil => intro seen seen' _; rfl
  | cons f fs ih =>
    intro seen seen' h
    have hmore : ∀ i, i ∈ f.identity :: seen ↔ i ∈ f.identity :: seen' := fun i => by
      rw [List.mem_cons, List.mem_cons, h]
    by_cases hf : f.identity ∈ seen
    · rw [distinct_cons_seen hf, distinct_cons_seen ((h _).mp hf), ih h]
    · rw [distinct_cons_new hf, distinct_cons_new fun hf' => hf ((h _).mpr hf'), ih hmore]

/-- **Behind other findings only those are kept that are the same as none of them.** -/
theorem distinct_append :
    ∀ (xs ys : List Finding) (seen : List Finding.Identity),
      distinct (xs ++ ys) seen
        = distinct xs seen ++ distinct ys (xs.map Finding.identity ++ seen) := by
  intro xs
  induction xs with
  | nil => intro ys seen; rfl
  | cons x xs ih =>
    intro ys seen
    rw [List.cons_append, List.map_cons, List.cons_append]
    by_cases hx : x.identity ∈ seen
    · rw [distinct_cons_seen hx, distinct_cons_seen hx, ih]
      refine congrArg (distinct xs seen ++ ·) (distinct_congr ys fun i => ?_)
      rw [List.mem_cons]
      refine ⟨Or.inr, ?_⟩
      rintro (rfl | hi)
      · exact List.mem_append_right _ hx
      · exact hi
    · rw [distinct_cons_new hx, distinct_cons_new hx, ih, List.cons_append]
      refine congrArg (x :: distinct xs _ ++ ·) (distinct_congr ys fun i => ?_)
      simp only [List.mem_append, List.mem_cons]
      rw [or_left_comm]

/-- What was seen before may as well be left out of what is kept. -/
theorem distinct_seen :
    ∀ (fs : List Finding) (more seen : List Finding.Identity),
      distinct fs (more ++ seen) = (distinct fs more).filter fun f => f.identity ∉ seen := by
  intro fs
  induction fs with
  | nil => intro more seen; rfl
  | cons f fs ih =>
    intro more seen
    by_cases hmore : f.identity ∈ more
    · rw [distinct_cons_seen hmore, distinct_cons_seen (List.mem_append_left _ hmore), ih]
    · by_cases hseen : f.identity ∈ seen
      · rw [distinct_cons_new hmore, distinct_cons_seen (List.mem_append_right _ hseen),
          List.filter_cons, if_neg (by simpa using hseen), ← ih]
        -- it makes no difference that the finding left out is noted as well
        refine distinct_congr fs fun i => ?_
        rw [List.cons_append, List.mem_cons]
        refine ⟨Or.inr, ?_⟩
        rintro (rfl | hi)
        · exact List.mem_append_right _ hseen
        · exact hi
      · have hnew : f.identity ∉ more ++ seen := fun h =>
          (List.mem_append.mp h).elim hmore hseen
        rw [distinct_cons_new hmore, distinct_cons_new hnew, List.filter_cons,
          if_pos (by simpa using hseen), ← ih, List.cons_append]

/-- Findings of which no two are the same are all kept. -/
theorem distinct_eq_self :
    ∀ {fs : List Finding} {seen : List Finding.Identity},
      (fs.Pairwise fun f g => f.identity ≠ g.identity) → (∀ f ∈ fs, f.identity ∉ seen) →
      distinct fs seen = fs := by
  intro fs
  induction fs with
  | nil => intro seen _ _; rfl
  | cons f fs ih =>
    intro seen h hseen
    obtain ⟨hf, hfs⟩ := List.pairwise_cons.mp h
    rw [distinct_cons_new (hseen f (List.mem_cons_self ..)), ih hfs]
    intro g hg hin
    rcases List.mem_cons.mp hin with hsame | hold
    · exact hf g hg hsame.symm
    · exact hseen g (List.mem_cons_of_mem _ hg) hold

end Distinct

/-! ## What a merge is -/

/-- All that merging the findings `fs` owes to its result. -/
structure IsMerge (fs : List Finding) (r : ReviewResult) : Prop where
  /-- no two findings agree in tool, file, line and rule, nor in the texts of them -/
  apart : r.all.Pairwise fun f g => f.key ≠ g.key
  /-- the findings are those that are the first of their kind -/
  kept : ∀ f, f ∈ r.all ↔ IsFirst fs f
  /-- and there is one of each kind -/
  represented : ∀ f ∈ fs, ∃ g ∈ r.all, g.identity = f.identity
  ordered : r.all.Pairwise fun f g =>
    f.file < g.file ∨ f.file = g.file ∧
      (f.position < g.position ∨ f.position = g.position ∧ f.tool ≤ g.tool)
  /-- findings at one position, of one tool, stand as they came -/
  stable : r.all.Pairwise fun f g =>
    f.file = g.file → f.position = g.position → f.tool = g.tool → fs.idxOf f < fs.idxOf g
  blocking : r.blocking = r.all.filter (·.severity = .blocking)
  warnings : r.warnings = r.all.filter (·.severity = .warning)
  parted : ∀ f ∈ r.all,
    (f ∈ r.blocking ∨ f ∈ r.warnings) ∧ ¬(f ∈ r.blocking ∧ f ∈ r.warnings)

section Merge

variable {fs : List Finding}

/-- The findings that are kept, in the order of a report. -/
theorem ofFindings_all : (ofFindings fs).all = (distinct fs []).mergeSort Finding.precedes := rfl

theorem apart_ofFindings :
    (ofFindings fs).all.Pairwise fun f g => f.identity ≠ g.identity :=
  (List.Perm.pairwise_iff Ne.symm (List.mergeSort_perm _ _)).mpr (pairwise_distinct fs [])

theorem ordered_ofFindings :
    (ofFindings fs).all.Pairwise fun f g => Finding.precedes f g = true :=
  List.pairwise_mergeSort Finding.precedes_trans Finding.precedes_total _

/-- Findings in report order of which no two are the same stay as they are. -/
theorem ofFindings_all_of_ordered (hapart : fs.Pairwise fun f g => f.identity ≠ g.identity)
    (hordered : fs.Pairwise fun f g => Finding.precedes f g = true) : (ofFindings fs).all = fs := by
  rw [ofFindings_all, distinct_eq_self hapart fun _ _ => List.not_mem_nil,
    List.mergeSort_of_pairwise hordered]

/-- Whatever was merged is the same as something in the result. -/
theorem exists_mem_all {f : Finding} (hf : f ∈ fs) :
    ∃ g ∈ (ofFindings fs).all, g.identity = f.identity := by
  obtain ⟨g, hsame, hfirst⟩ := exists_isFirst hf
  exact ⟨g, mem_all_iff.mpr hfirst, hsame⟩

/-- Findings that are tied stand as they were kept, and were kept as they came. -/
theorem stable_ofFindings :
    (ofFindings fs).all.Pairwise fun f g =>
      tied Finding.precedes f g = true → fs.idxOf f < fs.idxOf g := by
  refine List.pairwise_iff_forall_sublist.mpr fun {f g} hfg htied => ?_
  have hself : tied Finding.precedes f f = true := tied_self Finding.precedes_total f
  have hties : [f, g].Sublist ((distinct fs []).filter (tied Finding.precedes f)) := by
    rw [← filter_tied_mergeSort Finding.precedes_total Finding.precedes_trans]
    have hboth := hfg.filter (tied Finding.precedes f)
    rwa [List.filter_cons_of_pos hself, List.filter_cons_of_pos htied, List.filter_nil] at hboth
  exact List.pairwise_iff_forall_sublist.mp (pairwise_idxOf_distinct fs [])
    (hties.trans List.filter_sublist)

/-- A finding has one severity, so it is in one of the parts. -/
theorem parted_of_severity {r : ReviewResult}
    (hblocking : r.blocking = r.all.filter (·.severity = .blocking))
    (hwarnings : r.warnings = r.all.filter (·.severity = .warning)) :
    ∀ f ∈ r.all, (f ∈ r.blocking ∨ f ∈ r.warnings) ∧ ¬(f ∈ r.blocking ∧ f ∈ r.warnings) := by
  intro f hf
  rw [hblocking, hwarnings, List.mem_filter, List.mem_filter]
  cases hseverity : f.severity <;> simp [hf]

/-- Merging keeps to all that it owes. -/
theorem isMerge_ofFindings (fs : List Finding) : IsMerge fs (ofFindings fs) where
  apart := apart_ofFindings.imp fun h hkey => h (Finding.key_eq_iff.mp hkey)
  kept _ := mem_all_iff
  represented _ hf := exists_mem_all hf
  ordered := ordered_ofFindings.imp Finding.precedes_iff.mp
  stable := stable_ofFindings.imp fun h hfile hposition htool =>
    h (Finding.tied_iff_same.mpr ⟨hfile, hposition, htool⟩)
  blocking := rfl
  warnings := rfl
  parted := parted_of_severity rfl rfl

/-- **What a merge owes settles its findings and their order**: of two orders only one has the
findings that are tied as they came. -/
theorem IsMerge.all_eq {r r' : ReviewResult} (h : IsMerge fs r) (h' : IsMerge fs r') :
    r.all = r'.all := by
  have hnodup : ∀ {r : ReviewResult}, IsMerge fs r → r.all.Nodup := fun h =>
    h.apart.imp fun hkey heq => hkey (congrArg Finding.key heq)
  have hperm : r.all.Perm r'.all :=
    (List.perm_ext_iff_of_nodup (hnodup h) (hnodup h')).mpr fun f =>
      (h.kept f).trans (h'.kept f).symm
  refine hperm.eq_of_pairwise (fun f g _ _ hfg hgf => ?_) (h.ordered.and h.stable)
    (h'.ordered.and h'.stable)
  -- in front of each other they are tied, and then each came first
  obtain ⟨hfile, hposition, htool⟩ := Finding.tied_iff_same.mp
    (tied_iff.mpr ⟨Finding.precedes_iff.mpr hfg.1, Finding.precedes_iff.mpr hgf.1⟩)
  exact absurd (hfg.2 hfile hposition htool)
    (Nat.lt_asymm (hgf.2 hfile.symm hposition.symm htool.symm))

end Merge

/-- **Merging gives the one result that keeps to all that a merge owes.** -/
theorem eq_ofFindings_iff {fs : List Finding} {r : ReviewResult} :
    r = ofFindings fs ↔ IsMerge fs r := by
  refine ⟨fun h => h ▸ isMerge_ofFindings fs, fun h => ?_⟩
  have hall : r.all = (ofFindings fs).all := h.all_eq (isMerge_ofFindings fs)
  obtain ⟨blocking, warnings, all⟩ := r
  have hblocking : blocking = all.filter _ := h.blocking
  have hwarnings : warnings = all.filter _ := h.warnings
  obtain rfl : all = (ofFindings fs).all := hall
  rw [hblocking, hwarnings]
  rfl

/-! ## Merging what is merged -/

section Append

variable (xs ys : List Finding)

/-- What is found in a merge is the same as what was merged. -/
theorem mem_identities_all (i : Finding.Identity) :
    i ∈ (ofFindings xs).all.map Finding.identity ↔ i ∈ xs.map Finding.identity := by
  rw [List.mem_map, List.mem_map]
  constructor
  · rintro ⟨f, hf, rfl⟩
    exact ⟨f, mem_of_mem_all hf, rfl⟩
  · rintro ⟨f, hf, rfl⟩
    exact exists_mem_all hf

/-- A merge keeps all its findings if it is merged again. -/
theorem distinct_ofFindings : distinct (ofFindings xs).all [] = (ofFindings xs).all :=
  distinct_eq_self apart_ofFindings fun _ _ => List.not_mem_nil

/-- Behind a merge, a second one loses the findings that are the same as one of those that
were merged in the first. -/
theorem distinct_ofFindings_behind :
    distinct (ofFindings ys).all ((ofFindings xs).all.map Finding.identity)
      = (distinct ys (xs.map Finding.identity)).mergeSort Finding.precedes := by
  have hseen : ∀ fs, distinct fs ((ofFindings xs).all.map Finding.identity)
      = (distinct fs []).filter fun f => f.identity ∉ xs.map Finding.identity := fun fs => by
    rw [distinct_congr fs (mem_identities_all xs)]
    exact distinct_seen fs [] _
  rw [hseen, distinct_ofFindings, ofFindings_all,
    filter_mergeSort Finding.precedes_total Finding.precedes_trans]
  exact congrArg (List.mergeSort · _) (distinct_seen ys [] _).symm

theorem ofFindings_congr {fs gs : List Finding} (h : (ofFindings fs).all = (ofFindings gs).all) :
    ofFindings fs = ofFindings gs := by
  rw [ofFindings_all, ofFindings_all] at h
  unfold ofFindings
  rw [h]

theorem ofFindings_append_all :
    ofFindings ((ofFindings xs).all ++ (ofFindings ys).all) = ofFindings (xs ++ ys) := by
  refine ofFindings_congr ?_
  calc (ofFindings ((ofFindings xs).all ++ (ofFindings ys).all)).all
      = (distinct (ofFindings xs).all []
          ++ distinct (ofFindings ys).all ((ofFindings xs).all.map Finding.identity)).mergeSort
            Finding.precedes := by
        rw [ofFindings_all, distinct_append, List.append_nil]
    _ = ((distinct xs []).mergeSort Finding.precedes
          ++ (distinct ys (xs.map Finding.identity)).mergeSort Finding.precedes).mergeSort
            Finding.precedes := by
        rw [distinct_ofFindings, distinct_ofFindings_behind, ofFindings_all]
    _ = (distinct xs [] ++ distinct ys (xs.map Finding.identity)).mergeSort Finding.precedes :=
        mergeSort_append_mergeSort Finding.precedes_total Finding.precedes_trans _ _
    _ = (ofFindings (xs ++ ys)).all := by
        rw [ofFindings_all, distinct_append, List.append_nil]

/-- **Merging is a merge**: two results give, if they are merged, what their findings give if
they are merged at once, and a result by itself stays what it is. -/
theorem ofFindings_all_append :
    ofFindings ((ofFindings xs).all ++ (ofFindings ys).all) = ofFindings (xs ++ ys) ∧
      ofFindings (ofFindings xs).all = ofFindings xs := by
  refine ⟨ofFindings_append_all xs ys, ?_⟩
  have hnil : (ofFindings []).all = [] := List.mergeSort_nil
  have h := ofFindings_append_all xs []
  rwa [List.append_nil, hnil, List.append_nil] at h

end Append

end ReviewResult

end PullReview
