import Mathlib.Data.List.TakeWhile
import PullReview.Text.Lines

/-!
# Trimming

Blanks at the ends of a text do not show once it is trimmed (`trim_append_blanks`,
`trim_blanks_append`), and a carriage return that a line loses with its line end is one of
them (`trim_dropReturn`). A text that trimming leaves alone begins with no blank.
-/

namespace PullReview.Text

/-- A text of blanks alone. -/
def AreBlank (cs : List Char) : Prop := ∀ c ∈ cs, isBlank c = true

theorem areBlank_singleton {c : Char} (h : isBlank c = true) : AreBlank [c] :=
  List.forall_mem_singleton.mpr h

theorem allBlank_iff {cs : List Char} : allBlank cs = true ↔ AreBlank cs := List.all_eq_true

section Blanks

variable {gap : List Char} (h : AreBlank gap) (cs : List Char)
include h

theorem trimStart_blanks_append : trimStart (gap ++ cs) = trimStart cs :=
  List.dropWhile_append_of_pos h

theorem trimEnd_append_blanks : trimEnd (cs ++ gap) = trimEnd cs := by
  have hreverse : ∀ c ∈ gap.reverse, isBlank c = true := fun c hc => h c (List.mem_reverse.mp hc)
  unfold trimEnd
  rw [List.reverse_append, List.dropWhile_append_of_pos hreverse]

theorem trimStart_eq_nil : trimStart gap = [] := List.dropWhile_eq_nil_iff.mpr h

theorem trim_blanks_append : trim (gap ++ cs) = trim cs := by
  unfold trim
  rw [trimStart_blanks_append h]

theorem trim_append_blanks : trim (cs ++ gap) = trim cs := by
  unfold trim
  by_cases hcs : AreBlank cs
  · rw [trimStart_blanks_append hcs, trimStart_eq_nil h, trimStart_eq_nil hcs]
  · -- the blanks in front end within `cs`
    have hfront : trimStart (cs ++ gap) = trimStart cs ++ gap := by
      unfold trimStart
      rw [List.dropWhile_append, if_neg]
      intro hnil
      exact hcs (List.dropWhile_eq_nil_iff.mp (List.isEmpty_iff.mp hnil))
    rw [hfront, trimEnd_append_blanks h]

end Blanks

theorem trimStart_cons {c : Char} (h : isBlank c = false) (cs : List Char) :
    trimStart (c :: cs) = c :: cs := List.dropWhile_cons_of_neg (by simp [h])

/-- Trimming goes on from where the blanks in front are gone. -/
theorem trim_trimStart (cs : List Char) : trim (trimStart cs) = trim cs := by
  have hsplit : cs.takeWhile isBlank ++ trimStart cs = cs := List.takeWhile_append_dropWhile
  have hblank : AreBlank (cs.takeWhile isBlank) := List.all_eq_true.mp List.all_takeWhile
  calc trim (trimStart cs) = trim (cs.takeWhile isBlank ++ trimStart cs) :=
        (trim_blanks_append hblank _).symm
    _ = trim cs := by rw [hsplit]

/-- The carriage return that a line loses is a blank at its end. -/
theorem trim_dropReturn (cs : List Char) : trim (dropReturn cs) = trim cs := by
  unfold dropReturn
  split
  · next hlast =>
    obtain ⟨front, rfl⟩ := List.getLast?_eq_some_iff.mp hlast
    rw [List.dropLast_concat, trim_append_blanks (areBlank_singleton (by decide))]
  · rfl

theorem length_trim_le (cs : List Char) : (trim cs).length ≤ cs.length := by
  unfold trim trimEnd
  rw [List.length_reverse]
  calc ((trimStart cs).reverse.dropWhile isBlank).length
      ≤ (trimStart cs).reverse.length := (List.dropWhile_suffix _).length_le
    _ = (trimStart cs).length := List.length_reverse
    _ ≤ cs.length := (List.dropWhile_suffix _).length_le

/-- What is left of a text that stands out from the blanks. -/
theorem trim_ne_nil {cs : List Char} (h : ¬ AreBlank cs) : trim cs ≠ [] := by
  intro hnil
  unfold trim trimEnd at hnil
  rw [List.reverse_eq_nil_iff, List.dropWhile_eq_nil_iff] at hnil
  -- the first character behind the blanks in front is none itself
  have hstart : ∀ c ∈ trimStart cs, isBlank c = true := fun c hc =>
    hnil c (List.mem_reverse.mpr hc)
  have hhead := List.head?_dropWhile_not isBlank cs
  cases hcases : trimStart cs with
  | nil => exact h (List.dropWhile_eq_nil_iff.mp hcases)
  | cons c rest =>
    unfold trimStart at hcases
    rw [hcases] at hhead
    have hblank := hstart c (by unfold trimStart; rw [hcases]; exact List.mem_cons_self ..)
    exact absurd (hblank.symm.trans hhead) (by simp)

theorem trimEnd_isPrefix (cs : List Char) : trimEnd cs <+: cs := by
  have hsuffix := List.dropWhile_suffix (l := cs.reverse) isBlank
  rwa [← List.reverse_prefix, List.reverse_reverse] at hsuffix

/-- A text is what trimming leaves of it, with blanks around. -/
theorem exists_blanks_around (cs : List Char) :
    ∃ front back, cs = front ++ (trim cs ++ back) ∧ AreBlank front ∧ AreBlank back := by
  have hfront : cs.takeWhile isBlank ++ trimStart cs = cs := List.takeWhile_append_dropWhile
  have hback : trim cs ++ ((trimStart cs).reverse.takeWhile isBlank).reverse = trimStart cs := by
    unfold trim trimEnd
    rw [← List.reverse_append, List.takeWhile_append_dropWhile, List.reverse_reverse]
  have hblank : ∀ ds : List Char, AreBlank (ds.takeWhile isBlank) := fun ds =>
    List.all_eq_true.mp List.all_takeWhile
  refine ⟨cs.takeWhile isBlank, ((trimStart cs).reverse.takeWhile isBlank).reverse, ?_,
    hblank cs, fun c hc => hblank _ c (List.mem_reverse.mp hc)⟩
  rw [hback, hfront]

/-- Trimming makes up no characters. -/
theorem mem_of_mem_trim {c : Char} {cs : List Char} (h : c ∈ trim cs) : c ∈ cs :=
  (List.dropWhile_suffix _).subset ((trimEnd_isPrefix _).subset h)

/-- What is left begins with no blank. -/
theorem isBlank_head?_trim {c : Char} {cs : List Char} (h : (trim cs).head? = some c) :
    isBlank c = false := by
  obtain ⟨rest, hrest⟩ := List.head?_eq_some_iff.mp h
  have hstart : (trimStart cs).head? = some c := by
    obtain ⟨back, hback⟩ := trimEnd_isPrefix (trimStart cs)
    have hfront : trimEnd (trimStart cs) = c :: rest := hrest
    rw [← hback, hfront]
    rfl
  have hhead := List.head?_dropWhile_not isBlank cs
  unfold trimStart at hstart
  rwa [hstart] at hhead

/-- A text that trimming leaves alone begins with no blank. -/
theorem isBlank_head_of_trim {c : Char} {cs : List Char} (h : trim (c :: cs) = c :: cs) :
    isBlank c = false := by
  rw [Bool.eq_false_iff]
  intro hblank
  have hrest : trim (c :: cs) = trim cs := trim_blanks_append (areBlank_singleton hblank) cs
  have hshort := length_trim_le cs
  rw [← hrest, h, List.length_cons] at hshort
  omega

end PullReview.Text
