import PullReview.Number.Numeral

/-!
# Written numbers read back

A number written in the usual decimal digits is read as itself:
`ofDigits_toDigits`. Reading also knows the digits of other scripts, which
nothing here writes and ASCII does not hold (`isDigitKind_ascii`); none of them is
blank. The text of a number is made of digits, with a sign in front of a negative
one, and grows with the number; different numbers have different texts
(`intText_injective`).
-/

namespace PullReview

open Text

/-- A usual digit stands for its distance from zero. -/
theorem digitValue?_of_isDigit {c : Char} (h : c.isDigit = true) :
    digitValue? c = some (c.toNat - '0'.toNat) := by
  obtain ⟨hlow, hhigh⟩ : 0x30 ≤ c.toNat ∧ c.toNat ≤ 0x39 := Char.isDigit_iff_toNat.mp h
  have hascii : c.toNat < 0x80 := by omega
  simp only [digitValue?, if_pos hascii, hlow, hhigh, decide_true, Bool.and_self, if_true]
  rfl

theorem isDecimalDigit_of_isDigit {c : Char} (h : c.isDigit = true) : isDecimalDigit c = true := by
  unfold isDecimalDigit
  rw [digitValue?_of_isDigit h]
  rfl

theorem digitValues_of_isDigit :
    ∀ cs : List Char, (∀ c ∈ cs, c.isDigit = true) →
      Numeral.digitValues cs = cs.map fun c => c.toNat - '0'.toNat := by
  intro cs
  induction cs with
  | nil => intro _; rfl
  | cons c cs ih =>
    intro h
    have hc := digitValue?_of_isDigit (h c (List.mem_cons_self ..))
    have hcs := ih fun d hd => h d (List.mem_cons_of_mem _ hd)
    unfold Numeral.digitValues at hcs ⊢
    rw [List.filterMap_cons_some hc, hcs, List.map_cons]

/-- Usual digits write the number that they usually do. -/
theorem ofDigits_of_isDigit {cs : List Char} (h : ∀ c ∈ cs, c.isDigit = true) :
    Numeral.ofDigits (Numeral.digitValues cs) = Nat.ofDigitChars 10 cs 0 := by
  rw [digitValues_of_isDigit cs h, Nat.ofDigitChars_eq_foldl]
  unfold Numeral.ofDigits
  rw [List.foldl_map]

/-- **A written number reads back.** -/
theorem ofDigits_toDigits (n : Nat) :
    Numeral.ofDigits (Numeral.digitValues (Nat.toDigits 10 n)) = n := by
  have hdigits : ∀ c ∈ Nat.toDigits 10 n, c.isDigit = true := fun c hc =>
    Nat.isDigit_of_mem_toDigits (by decide) (by decide) hc
  rw [ofDigits_of_isDigit hdigits]
  exact Nat.ofDigitChars_toDigits (by decide) (by decide)

/-- Usual digits alone are read as the number that they write. -/
theorem ofDigits?_of_isDigit {cs : List Char} (hcs : cs.isEmpty = false)
    (h : ∀ c ∈ cs, c.isDigit = true) :
    Double.ofDigits? cs = some (.ofDecimal false (Nat.ofDigitChars 10 cs 0) 0) := by
  have hall : cs.all isDecimalDigit = true :=
    List.all_eq_true.mpr fun c hc => isDecimalDigit_of_isDigit (h c hc)
  unfold Double.ofDigits?
  rw [hall, hcs, ofDigits_of_isDigit h]
  rfl

/-- Among the ASCII characters the usual digits are the only ones of any kind. -/
theorem isDigitKind_ascii {c : Char} (h : c.toNat < 0x80) :
    isDigitKind c = true ↔ c.isDigit = true := by
  have hfar : ∀ range ∈ otherDigitRanges, 0x80 ≤ range.1 := by decide
  unfold isDigitKind
  refine ⟨fun hkind => ?_, fun hdigit => ?_⟩
  · rcases Bool.or_eq_true_iff.mp hkind with hdecimal | hother
    · unfold isDecimalDigit digitValue? at hdecimal
      rw [if_pos h] at hdecimal
      split at hdecimal
      · next hrange =>
        simp only [Bool.and_eq_true, decide_eq_true_eq] at hrange
        exact Char.isDigit_iff_toNat.mpr hrange
      · exact absurd hdecimal (by decide)
    · obtain ⟨range, hrange, hin⟩ := List.any_eq_true.mp hother
      have hlow := hfar range hrange
      simp only [Bool.and_eq_true, decide_eq_true_eq] at hin
      omega
  · rw [isDecimalDigit_of_isDigit hdigit]
    rfl

theorem allDigitKind_ascii {cs : List Char} (h : ∀ c ∈ cs, c.toNat < 0x80) :
    allDigitKind cs = (!cs.isEmpty && cs.all Char.isDigit) := by
  have hall : cs.all isDigitKind = cs.all Char.isDigit := by
    rw [Bool.eq_iff_iff, List.all_eq_true, List.all_eq_true]
    exact forall₂_congr fun c hc => isDigitKind_ascii (h c hc)
  unfold allDigitKind
  rw [hall]

/-- The codes of the blank characters. -/
def blankCodes : List Nat := [
  0x09, 0x0a, 0x0b, 0x0c, 0x0d, 0x1c, 0x1d, 0x1e, 0x1f, 0x20, 0x85, 0xa0, 0x1680, 0x2000, 0x2001,
  0x2002, 0x2003, 0x2004, 0x2005, 0x2006, 0x2007, 0x2008, 0x2009, 0x200a, 0x2028, 0x2029, 0x202f,
  0x205f, 0x3000]

theorem mem_blankCodes {c : Char} (h : isBlank c = true) : c.toNat ∈ blankCodes := by
  simp only [isBlank, Bool.or_eq_true, Bool.and_eq_true, decide_eq_true_eq, beq_iff_eq] at h
  simp only [blankCodes, List.mem_cons, List.not_mem_nil, or_false]
  omega

/-- No blank is a digit. -/
theorem isDecimalDigit_of_isBlank {c : Char} (h : isBlank c = true) : isDecimalDigit c = false := by
  have hnone : ∀ n ∈ blankCodes,
      (if n < 0x80 then if 0x30 ≤ n && n ≤ 0x39 then some (n - 0x30) else none
        else (digitZeros.find? fun start => start ≤ n && n < start + 10).map (n - ·)) = none := by
    decide
  have hvalue : digitValue? c = none := hnone c.toNat (mem_blankCodes h)
  unfold isDecimalDigit
  rw [hvalue]
  rfl

/-- No digit of any kind is blank. -/
theorem not_isBlank_of_isDigitKind {c : Char} (h : isDigitKind c = true) :
    ¬ isBlank c = true := by
  have hnone : ∀ n ∈ blankCodes,
      (otherDigitRanges.any fun range => range.1 ≤ n && n ≤ range.2) = false := by decide
  intro hblank
  rcases Bool.or_eq_true_iff.mp h with hdecimal | hother
  · exact absurd (hdecimal.symm.trans (isDecimalDigit_of_isBlank hblank)) (by decide)
  · exact absurd (hother.symm.trans (hnone c.toNat (mem_blankCodes hblank))) (by decide)

/-- The text of a natural number. -/
theorem toList_natText (n : Nat) : (toString n).toList = Nat.toDigits 10 n := Nat.toList_repr

/-- The text of a whole number: a natural one, behind a sign if need be. -/
theorem toList_intText (n : Int) :
    (toString n).toList = (if 0 ≤ n then [] else ['-']) ++ Nat.toDigits 10 n.natAbs := by
  show n.repr.toList = _
  rw [Int.repr_eq_if]
  by_cases hn : 0 ≤ n
  · have habs : n.natAbs = n.toNat := by omega
    rw [if_pos hn, if_pos hn, Nat.toList_repr, habs]
    rfl
  · have habs : n.natAbs = (-n).toNat := by omega
    rw [if_neg hn, if_neg hn, String.toList_append, Nat.toList_repr, habs]
    rfl

theorem mem_natText {n : Nat} {c : Char} (hc : c ∈ (toString n).toList) : c.isDigit = true := by
  rw [toList_natText] at hc
  exact Nat.isDigit_of_mem_toDigits (by decide) (by decide) hc

theorem mem_intText {n : Int} {c : Char} (hc : c ∈ (toString n).toList) :
    c = '-' ∨ c.isDigit = true := by
  rw [toList_intText] at hc
  rcases List.mem_append.mp hc with hc | hc
  · split at hc
    · exact absurd hc List.not_mem_nil
    · exact Or.inl (List.mem_singleton.mp hc)
  · exact Or.inr (Nat.isDigit_of_mem_toDigits (by decide) (by decide) hc)

theorem toDigits_injective {a b : Nat} (h : Nat.toDigits 10 a = Nat.toDigits 10 b) : a = b := by
  rw [← Nat.ofDigitChars_toDigits (n := a) (b := 10) (by decide) (by decide), h,
    Nat.ofDigitChars_toDigits (by decide) (by decide)]

/-- **Different numbers have different texts.** -/
theorem intText_injective {m n : Int} (h : toString m = toString n) : m = n := by
  have hsame := congrArg String.toList h
  rw [toList_intText, toList_intText] at hsame
  -- a sign is no digit, so the two have the same sign
  have hsign : ∀ a b : Nat, Nat.toDigits 10 a ≠ '-' :: Nat.toDigits 10 b := by
    intro a b hab
    have hin : '-' ∈ Nat.toDigits 10 a := by rw [hab]; exact List.mem_cons_self ..
    exact absurd (Nat.isDigit_of_mem_toDigits (by decide) (by decide) hin) (by decide)
  by_cases hm : 0 ≤ m
  · by_cases hn : 0 ≤ n
    · rw [if_pos hm, if_pos hn] at hsame
      have habs := toDigits_injective hsame
      omega
    · rw [if_pos hm, if_neg hn] at hsame
      exact absurd hsame (hsign _ _)
  · by_cases hn : 0 ≤ n
    · rw [if_neg hm, if_pos hn] at hsame
      exact absurd hsame.symm (hsign _ _)
    · rw [if_neg hm, if_neg hn] at hsame
      have habs := toDigits_injective (List.cons.inj hsame).2
      omega

/-- A smaller number has no longer text. -/
theorem length_natText_mono {m n : Nat} (h : m ≤ n) :
    (toString m).toList.length ≤ (toString n).toList.length := by
  have hpos : 0 < (Nat.toDigits 10 n).length := List.length_pos_iff.mpr Nat.toDigits_ne_nil
  have hn : n < 10 ^ (Nat.toDigits 10 n).length :=
    (Nat.length_toDigits_le_iff (by decide) hpos).mp (Nat.le_refl _)
  rw [toList_natText, toList_natText]
  exact (Nat.length_toDigits_le_iff (by decide) hpos).mpr (Nat.lt_of_le_of_lt h hn)

end PullReview
