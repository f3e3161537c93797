import Mathlib.Data.List.Basic
import PullReview.Proofs.Report.Aggregate

/-!
# The order of a report

Findings are put in order by `mergeSort`, which is stable: findings that are tied keep
the order they came in (`filter_tied_mergeSort`). Sorted lists with the same ties in the
same order are one list (`eq_of_filter_tied`), so it makes no difference whether findings
are picked before they are sorted or after:

> `filter_mergeSort`: sorting and picking commute.

So warnings behind all other findings leave the blocking part of a result as it is, in
order too (`blocking_append_warnings`).
-/

namespace PullReview

section Sorting

variable {α : Type} {le : α → α → Bool}

/-- Neither of two elements has to stand in front of the other. -/
def tied (le : α → α → Bool) (a b : α) : Bool := le a b && le b a

theorem tied_iff {a b : α} : tied le a b = true ↔ le a b = true ∧ le b a = true :=
  Bool.and_eq_true_iff

variable (htotal : ∀ a b, (le a b || le b a) = true)
include htotal

theorem tied_self (a : α) : tied le a a = true := by
  have h := htotal a a
  rw [Bool.or_self] at h
  exact tied_iff.mpr ⟨h, h⟩

/-- What is tied with the first of some elements is found among those that are the same
up to ties. -/
theorem mem_of_filter_tied {x : α} {xs ys : List α}
    (h : (x :: xs).filter (tied le x) = ys.filter (tied le x)) : x ∈ ys := by
  have hx : x ∈ (x :: xs).filter (tied le x) :=
    List.mem_filter.mpr ⟨List.mem_cons_self .., tied_self htotal x⟩
  rw [h] at hx
  exact (List.mem_filter.mp hx).1

/-- **Sorted lists with the same ties in the same order are one list.** -/
theorem eq_of_filter_tied :
    ∀ {xs ys : List α}, xs.Pairwise (fun a b => le a b = true) →
      ys.Pairwise (fun a b => le a b = true) →
      (∀ a, xs.filter (tied le a) = ys.filter (tied le a)) → xs = ys := by
  intro xs
  induction xs with
  | nil =>
    intro ys _ _ h
    cases ys with
    | nil => rfl
    | cons y ys => exact absurd (mem_of_filter_tied htotal (h y).symm) List.not_mem_nil
  | cons x xs ih =>
    intro ys hxs hys h
    cases ys with
    | nil => exact absurd (mem_of_filter_tied htotal (h x)) List.not_mem_nil
    | cons y ys =>
      obtain ⟨hx, hxs'⟩ := List.pairwise_cons.mp hxs
      obtain ⟨hy, hys'⟩ := List.pairwise_cons.mp hys
      have hself := tied_iff.mp (tied_self htotal x)
      -- each of the two first elements stands in the other list too, so they are tied
      have htied : tied le x y = true := by
        rcases List.mem_cons.mp (mem_of_filter_tied htotal (h x)) with rfl | hin
        · exact tied_self htotal x
        · rcases List.mem_cons.mp (mem_of_filter_tied htotal (h y).symm) with rfl | hin'
          · exact tied_self htotal y
          · exact tied_iff.mpr ⟨hx y hin', hy x hin⟩
      have hfirst := h x
      rw [List.filter_cons_of_pos (tied_self htotal x), List.filter_cons_of_pos htied] at hfirst
      obtain ⟨rfl, -⟩ := List.cons.inj hfirst
      refine congrArg (x :: ·) (ih hxs' hys' fun a => ?_)
      have ha := h a
      rw [List.filter_cons, List.filter_cons] at ha
      split at ha
      · exact (List.cons.inj ha).2
      · exact ha

variable (htrans : ∀ a b c, le a b = true → le b c = true → le a c = true)
include htrans

/-- **Sorting is stable**: what is tied with an element keeps its order. -/
theorem filter_tied_mergeSort (a : α) (xs : List α) :
    (xs.mergeSort le).filter (tied le a) = xs.filter (tied le a) := by
  have hsorted : (xs.filter (tied le a)).Pairwise fun b c => le b c = true := by
    refine List.pairwise_of_forall_mem_list fun b hb c hc => ?_
    have hab := tied_iff.mp (List.mem_filter.mp hb).2
    have hac := tied_iff.mp (List.mem_filter.mp hc).2
    exact htrans b a c hab.2 hac.1
  have hsub : (xs.filter (tied le a)).Sublist (xs.mergeSort le) :=
    List.sublist_mergeSort htrans htotal hsorted List.filter_sublist
  have htied := hsub.filter (tied le a)
  simp only [List.filter_filter, Bool.and_self] at htied
  have hlength : (xs.filter (tied le a)).length = ((xs.mergeSort le).filter (tied le a)).length :=
    ((List.mergeSort_perm xs le).filter _).length_eq.symm
  exact (htied.eq_of_length hlength).symm

/-- **Sorting and picking commute.** -/
theorem filter_mergeSort (p : α → Bool) (xs : List α) :
    (xs.mergeSort le).filter p = (xs.filter p).mergeSort le := by
  have hsorted : ∀ ys : List α, (ys.mergeSort le).Pairwise fun a b => le a b = true :=
    List.pairwise_mergeSort htrans htotal
  refine eq_of_filter_tied htotal ((hsorted xs).sublist List.filter_sublist) (hsorted _) fun a => ?_
  rw [filter_tied_mergeSort htotal htrans, List.filter_comm,
    filter_tied_mergeSort htotal htrans, List.filter_comm]

/-- Sorting two parts first does no harm to sorting the whole. -/
theorem mergeSort_append_mergeSort (xs ys : List α) :
    (xs.mergeSort le ++ ys.mergeSort le).mergeSort le = (xs ++ ys).mergeSort le := by
  have hsorted : ∀ zs : List α, (zs.mergeSort le).Pairwise fun a b => le a b = true :=
    List.pairwise_mergeSort htrans htotal
  refine eq_of_filter_tied htotal (hsorted _) (hsorted _) fun a => ?_
  simp only [filter_tied_mergeSort htotal htrans, List.filter_append]

end Sorting

/-! ## Findings -/

namespace Finding

/-- One finding stands in front of another by its file, then by its line, then by its tool. -/
theorem precedes_iff {f g : Finding} :
    precedes f g = true ↔
      f.file < g.file ∨ f.file = g.file ∧
        (f.position < g.position ∨ f.position = g.position ∧ f.tool ≤ g.tool) := by
  unfold precedes
  by_cases hfile : f.file = g.file
  · by_cases hposition : f.position = g.position
    · simp [hfile, hposition]
    · simp [hfile, hposition]
  · simp [hfile]

theorem precedes_trans (f g h : Finding) (hfg : precedes f g = true) (hgh : precedes g h = true) :
    precedes f h = true := by
  rw [precedes_iff] at *
  rcases hfg with hfg | ⟨hfile, hfg⟩
  · rcases hgh with hgh | ⟨hfile', -⟩
    · exact Or.inl (String.lt_trans hfg hgh)
    · exact Or.inl (hfile' ▸ hfg)
  · rcases hgh with hgh | ⟨hfile', hgh⟩
    · exact Or.inl (hfile ▸ hgh)
    · refine Or.inr ⟨hfile.trans hfile', ?_⟩
      rcases hfg with hfg | ⟨hposition, hfg⟩
      · rcases hgh with hgh | ⟨hposition', -⟩
        · exact Or.inl (Int.lt_trans hfg hgh)
        · exact Or.inl (hposition' ▸ hfg)
      · rcases hgh with hgh | ⟨hposition', hgh⟩
        · exact Or.inl (hposition ▸ hgh)
        · exact Or.inr ⟨hposition.trans hposition', String.le_trans hfg hgh⟩

theorem precedes_total (f g : Finding) : (precedes f g || precedes g f) = true := by
  rw [Bool.or_eq_true, precedes_iff, precedes_iff]
  by_cases hfile : f.file = g.file
  · rcases Int.lt_trichotomy f.position g.position with hlt | heq | hgt
    · exact Or.inl (Or.inr ⟨hfile, Or.inl hlt⟩)
    · rcases String.le_total f.tool g.tool with hle | hge
      · exact Or.inl (Or.inr ⟨hfile, Or.inr ⟨heq, hle⟩⟩)
      · exact Or.inr (Or.inr ⟨hfile.symm, Or.inr ⟨heq.symm, hge⟩⟩)
    · exact Or.inr (Or.inr ⟨hfile.symm, Or.inl hgt⟩)
  · rcases Std.lt_trichotomy f.file g.file with hlt | heq | hgt
    · exact Or.inl (Or.inl hlt)
    · exact absurd heq hfile
    · exact Or.inr (Or.inl hgt)

theorem precedes_self (f : Finding) : precedes f f = true := by
  have htotal := precedes_total f f
  rwa [Bool.or_self] at htotal

end Finding

/-! ## Warnings behind other findings -/

namespace ReviewResult

variable {warnings : List Finding} (h : ∀ f ∈ warnings, f.severity = .warning)
include h

/-- A warning behind other findings takes no finding's place: of the same findings the
first stays. -/
theorem distinct_append_warnings :
    ∀ (fs : List Finding) (seen : List Finding.Identity),
      (distinct (fs ++ warnings) seen).filter (·.severity = .blocking)
        = (distinct fs seen).filter (·.severity = .blocking) := by
  intro fs
  induction fs with
  | nil =>
    intro seen
    refine List.filter_eq_nil_iff.mpr fun f hf => ?_
    rw [h f (mem_of_mem_distinct _ _ hf)]
    decide
  | cons f fs ih =>
    intro seen
    simp only [List.cons_append, distinct]
    split
    · exact ih seen
    · rw [List.filter_cons, List.filter_cons, ih]

/-- **Warnings behind all other findings leave the blocking findings**, and their order. -/
theorem blocking_append_warnings (fs : List Finding) :
    (ofFindings (fs ++ warnings)).blocking = (ofFindings fs).blocking := by
  show ((distinct (fs ++ warnings) []).mergeSort Finding.precedes).filter _
    = ((distinct fs []).mergeSort Finding.precedes).filter _
  rw [filter_mergeSort Finding.precedes_total Finding.precedes_trans,
    filter_mergeSort Finding.precedes_total Finding.precedes_trans,
    distinct_append_warnings h]

end ReviewResult

end PullReview
