import PullReview.Report.Markdown

/-!
# Where the findings of a result come from

Findings are merged if their lines can be written (`merge_eq_ok_iff`). Merging drops and
reorders findings and makes none up: what a result holds was
among the findings merged, and its two parts hold findings of the whole. It keeps
the findings that are the first of their kind (`mem_distinct_iff`), so a result
blocks if one of those does (`passed_eq_false_iff`).
-/

namespace PullReview.ReviewResult

theorem merge_eq_ok_iff {findings : List Finding} {r : ReviewResult} :
    merge findings = .ok r ↔ (∀ f ∈ findings, f.isWritable = true) ∧ r = ofFindings findings := by
  unfold merge
  split
  · next h =>
    exact ⟨fun hr => ⟨List.all_eq_true.mp h, (Except.ok.inj hr).symm⟩, fun hr => hr.2 ▸ rfl⟩
  · next h => exact ⟨fun hr => absurd hr (by simp), fun hr => absurd (List.all_eq_true.mpr hr.1) h⟩

theorem merge_writable {findings : List Finding} (h : ∀ f ∈ findings, f.isWritable = true) :
    merge findings = .ok (ofFindings findings) := merge_eq_ok_iff.mpr ⟨h, rfl⟩

/-- Findings that can be written do not keep others from being merged. -/
theorem merge_append {found : List Finding} (h : ∀ f ∈ found, f.isWritable = true)
    (fs : List Finding) :
    merge (fs ++ found) = (merge fs).map fun _ => ofFindings (fs ++ found) := by
  have hfound : found.all Finding.isWritable = true := List.all_eq_true.mpr h
  unfold merge
  rw [List.all_append, hfound, Bool.and_true]
  split
  · rfl
  · rfl

theorem mem_of_mem_distinct :
    ∀ (fs : List Finding) (seen : List Finding.Identity) {f : Finding},
      f ∈ distinct fs seen → f ∈ fs := by
  intro fs
  induction fs with
  | nil => intro seen f hf; exact hf
  | cons g gs ih =>
    intro seen f hf
    unfold distinct at hf
    split at hf
    · exact List.mem_cons_of_mem _ (ih _ hf)
    · rcases List.mem_cons.mp hf with rfl | hrest
      · exact List.mem_cons_self ..
      · exact List.mem_cons_of_mem _ (ih _ hrest)

/-- A merged finding is one of those that were merged. -/
theorem mem_of_mem_all {findings : List Finding} {f : Finding}
    (hf : f ∈ (ofFindings findings).all) : f ∈ findings :=
  mem_of_mem_distinct findings [] (List.mem_mergeSort.mp hf)

/-- A finding stands in a list, and nothing that is the same stands in front of it. -/
def IsFirst (fs : List Finding) (f : Finding) : Prop :=
  ∃ before after, fs = before ++ f :: after ∧ ∀ g ∈ before, g.identity ≠ f.identity

theorem isFirst_nil {f : Finding} : ¬ IsFirst [] f := by
  rintro ⟨before, after, h, _⟩
  exact absurd h.symm (by simp)

/-- Behind another finding only what differs from it can be the first. -/
theorem isFirst_cons {g f : Finding} {gs : List Finding} :
    IsFirst (g :: gs) f ↔ f = g ∨ g.identity ≠ f.identity ∧ IsFirst gs f := by
  constructor
  · rintro ⟨before, after, h, hbefore⟩
    cases before with
    | nil => exact Or.inl (List.cons.inj h).1.symm
    | cons b before =>
      obtain ⟨rfl, hgs⟩ := List.cons.inj h
      obtain ⟨hg, hmore⟩ := List.forall_mem_cons.mp hbefore
      exact Or.inr ⟨hg, before, after, hgs, hmore⟩
  · rintro (rfl | ⟨hg, before, after, rfl, hbefore⟩)
    · exact ⟨[], gs, rfl, fun b hb => absurd hb List.not_mem_nil⟩
    · exact ⟨g :: before, after, rfl, List.forall_mem_cons.mpr ⟨hg, hbefore⟩⟩

/-- **What stays are the first findings of each kind** that was not seen before. -/
theorem mem_distinct_iff :
    ∀ (fs : List Finding) (seen : List Finding.Identity) {f : Finding},
      f ∈ distinct fs seen ↔ f.identity ∉ seen ∧ IsFirst fs f := by
  intro fs
  induction fs with
  | nil =>
    intro seen f
    exact iff_of_false List.not_mem_nil fun h => isFirst_nil h.2
  | cons g gs ih =>
    intro seen f
    unfold distinct
    rw [isFirst_cons]
    split
    · next hg =>
      have hg : g.identity ∈ seen := List.contains_iff_mem.mp hg
      rw [ih]
      constructor
      · rintro ⟨hf, hfirst⟩
        exact ⟨hf, Or.inr ⟨fun e => hf (e ▸ hg), hfirst⟩⟩
      · rintro ⟨hf, rfl | ⟨_, hfirst⟩⟩
        · exact absurd hg hf
        · exact ⟨hf, hfirst⟩
    · next hg =>
      have hg : g.identity ∉ seen := fun h => hg (List.contains_iff_mem.mpr h)
      rw [List.mem_cons, ih, List.mem_cons, not_or]
      constructor
      · rintro (rfl | ⟨⟨hne, hf⟩, hfirst⟩)
        · exact ⟨hg, Or.inl rfl⟩
        · exact ⟨hf, Or.inr ⟨Ne.symm hne, hfirst⟩⟩
      · rintro ⟨hf, rfl | ⟨hne, hfirst⟩⟩
        · exact Or.inl rfl
        · exact Or.inr ⟨⟨Ne.symm hne, hf⟩, hfirst⟩

/-- The findings of a result are those that are the first of their kind. -/
theorem mem_all_iff {findings : List Finding} {f : Finding} :
    f ∈ (ofFindings findings).all ↔ IsFirst findings f := by
  show f ∈ (distinct findings []).mergeSort Finding.precedes ↔ _
  rw [List.mem_mergeSort, mem_distinct_iff]
  exact and_iff_right List.not_mem_nil

/-- The blocking findings of a result are those that are the first of their kind. -/
theorem mem_blocking_iff {findings : List Finding} {f : Finding} :
    f ∈ (ofFindings findings).blocking ↔ IsFirst findings f ∧ f.severity = .blocking := by
  show f ∈ (ofFindings findings).all.filter _ ↔ _
  rw [List.mem_filter, mem_all_iff, decide_eq_true_iff]

/-- A blocking finding of a merged result is one of its findings. -/
theorem mem_all_of_mem_blocking {findings : List Finding} {f : Finding}
    (hf : f ∈ (ofFindings findings).blocking) : f ∈ (ofFindings findings).all :=
  (List.mem_filter.mp hf).1

/-- The verdict is on the result itself. -/
theorem outcome_result (r : ReviewResult) : r.outcome.result = r := by
  unfold outcome
  split <;> rfl

theorem outcome_passed (r : ReviewResult) : r.outcome.passed = r.blocking.isEmpty := by
  unfold outcome
  split
  · next h => exact h.symm
  · next h => exact (Bool.eq_false_iff.mpr h).symm

/-- Merged findings block if one of them does that is the first of its kind. -/
theorem passed_eq_false_iff (findings : List Finding) :
    (ofFindings findings).outcome.passed = false ↔
      ∃ f, IsFirst findings f ∧ f.severity = .blocking := by
  rw [outcome_passed, List.isEmpty_eq_false_iff_exists_mem]
  exact exists_congr fun f => mem_blocking_iff

end PullReview.ReviewResult
