import PullReview.Proofs.Number.Digits
import PullReview.Proofs.Text.Trim

/-!
# Texts of digits that are numbers

A text that is made of digits of any kind, once it is trimmed, looks like a whole number. It
is read as one just if it is `IsPlain`: the digits are decimal, there are not too many of
them, and around them are only blanks that numerals allow (`readInt_plain`, `readInt_strange`).
-/

namespace PullReview

open Text

namespace Numeral

theorem isBlank_of_isPadding {c : Char} (h : isPadding c = true) : isBlank c = true :=
  (Bool.and_eq_true_iff.mp h).1

/-! ## Digits in front -/

/-- Behind these characters no digits go on. -/
def EndsDigits (cs : List Char) : Prop :=
  ∀ c ∈ cs.head?, isDecimalDigit c = false ∧ c ≠ '_'

theorem takeDigits_nothing {cs : List Char} (h : EndsDigits cs) (afterDigit : Bool) :
    takeDigits afterDigit cs = ([], cs) := by
  cases cs with
  | nil => rfl
  | cons c cs =>
    obtain ⟨hdigit, hunderscore⟩ := h c rfl
    have hvalue : digitValue? c = none := by
      unfold isDecimalDigit at hdigit
      exact Option.isNone_iff_eq_none.mp (by rw [← Option.not_isSome, hdigit]; rfl)
    unfold takeDigits
    simp only [hvalue, hunderscore, decide_false, Bool.false_and, Bool.false_eq_true, if_false]

/-- Digits in front are taken up to where they end. -/
theorem takeDigits_append {rest : List Char} (hrest : EndsDigits rest) :
    ∀ (ds : List Char) (afterDigit : Bool), (∀ d ∈ ds, isDecimalDigit d = true) →
      takeDigits afterDigit (ds ++ rest) = (digitValues ds, rest) := by
  intro ds
  induction ds with
  | nil => intro afterDigit _; exact takeDigits_nothing hrest afterDigit
  | cons d ds ih =>
    intro afterDigit h
    obtain ⟨hd, hds⟩ := List.forall_mem_cons.mp h
    obtain ⟨n, hn⟩ := Option.isSome_iff_exists.mp hd
    unfold digitValues at ih ⊢
    rw [List.cons_append, List.filterMap_cons_some hn]
    unfold takeDigits
    simp only [hn, ih true hds]

/-! ## Few digits -/

theorem digitValue?_lt {c : Char} {d : Nat} (h : digitValue? c = some d) : d < 10 := by
  unfold digitValue? at h
  dsimp only at h
  split at h
  · split at h
    · next hrange =>
      obtain rfl := Option.some.inj h
      simp only [Bool.and_eq_true, decide_eq_true_eq] at hrange
      omega
    · exact absurd h (by simp)
  · obtain ⟨start, hstart, rfl⟩ := Option.map_eq_some_iff.mp h
    have hrange := List.find?_some hstart
    simp only [Bool.and_eq_true, decide_eq_true_eq] at hrange
    omega

theorem digitValues_lt {cs : List Char} : ∀ d ∈ digitValues cs, d < 10 := by
  intro d hd
  obtain ⟨c, _, hc⟩ := List.mem_filterMap.mp hd
  exact digitValue?_lt hc

theorem takeDigits_lt :
    ∀ (afterDigit : Bool) (cs : List Char), ∀ d ∈ (takeDigits afterDigit cs).1, d < 10 := by
  intro afterDigit cs
  fun_induction takeDigits afterDigit cs with
  | case1 => intro d hd; exact absurd hd List.not_mem_nil
  | case2 _ _ _ _ hd _ _ htake ih =>
    rw [htake] at ih
    exact List.forall_mem_cons.mpr ⟨digitValue?_lt hd, ih⟩
  | case3 _ _ _ _ _ _ _ hd _ _ htake ih =>
    rw [htake] at ih
    exact List.forall_mem_cons.mpr ⟨digitValue?_lt hd, ih⟩
  | _ => intro d hd; exact absurd hd List.not_mem_nil

theorem ofDigits_lt {ds : List Nat} (h : ∀ d ∈ ds, d < 10) :
    ofDigits ds < firstBeyond ds.length := by
  have hfrom : ∀ (ds : List Nat) (n : Nat), (∀ d ∈ ds, d < 10) →
      ds.foldl (fun n d => 10 * n + d) n < (n + 1) * 10 ^ ds.length := by
    intro ds
    induction ds with
    | nil => intro n _; simp
    | cons d ds ih =>
      intro n h
      obtain ⟨hd, hds⟩ := List.forall_mem_cons.mp h
      rw [List.foldl_cons, List.length_cons, Nat.pow_succ']
      calc ds.foldl (fun n d => 10 * n + d) (10 * n + d)
          < (10 * n + d + 1) * 10 ^ ds.length := ih _ hds
        _ ≤ (n + 1) * 10 * 10 ^ ds.length := Nat.mul_le_mul_right _ (by omega)
        _ = (n + 1) * (10 * 10 ^ ds.length) := Nat.mul_assoc ..
  have hlt := hfrom ds 0 h
  rw [Nat.zero_add, Nat.one_mul] at hlt
  exact hlt

theorem firstBeyond_mono {k m : Nat} (h : k ≤ m) : firstBeyond k ≤ firstBeyond m :=
  Nat.pow_le_pow_right (by decide) h

theorem isShort_neg (n : Int) : isShort (-n) = isShort n := by
  unfold isShort
  rw [Int.natAbs_neg]

/-- As many digits as are read are written, too. -/
theorem isShort_natOf {ds : List Nat} {n : Nat} (hds : ∀ d ∈ ds, d < 10) (h : natOf ds = .ok n) :
    isShort n = true := by
  unfold natOf at h
  split at h
  · exact absurd h (by simp)
  · next hfew =>
    obtain rfl := Except.ok.inj h
    exact decide_eq_true
      (Nat.lt_of_lt_of_le (ofDigits_lt hds) (firstBeyond_mono (Nat.le_of_not_lt hfew)))

/-- A number that is read can be written. -/
theorem isShort_readInt {s : String} {n : Int} (h : readInt s = .ok n) : isShort n = true := by
  unfold readInt at h
  dsimp only at h
  split at h
  · exact absurd h (by simp [throw, throwThe, MonadExceptOf.throw, bind, Except.bind])
  · cases hn : natOf (takeDigits false (takeSign (s.toList.dropWhile isPadding)).2).1 with
    | error fault =>
      rw [hn] at h
      exact absurd h (by simp [bind, Except.bind])
    | ok m =>
      rw [hn] at h
      have hm := isShort_natOf (takeDigits_lt _ _) hn
      dsimp only [bind, Except.bind, pure, Except.pure] at h
      split at h
      · obtain rfl := Except.ok.inj h
        split
        · exact (isShort_neg _).trans hm
        · exact hm
      · exact absurd h (by simp [throw, throwThe, MonadExceptOf.throw])

/-! ## Reading -/

/-- How a text without a sign is read, by its digits and what follows them. -/
theorem readInt_of_takeDigits {s : String} {cs rest : List Char} {ds : List Nat}
    (hfront : s.toList.dropWhile isPadding = cs) (hsign : takeSign cs = (false, cs))
    (hdigits : takeDigits false cs = (ds, rest)) :
    readInt s = if ds.isEmpty then .error .malformed
      else if maxDigits < ds.length then .error (.tooLong ds.length)
      else if rest.all isPadding then .ok (ofDigits ds) else .error .malformed := by
  unfold readInt natOf
  simp only [hfront, hsign, hdigits]
  split
  · rfl
  · split
    · rfl
    · split <;> rfl

theorem takeSign_cons {c : Char} (hminus : c ≠ '-') (hplus : c ≠ '+') (cs : List Char) :
    takeSign (c :: cs) = (false, c :: cs) := by
  unfold takeSign
  split
  · next heq => exact absurd (List.cons.inj heq).1 hminus
  · next heq => exact absurd (List.cons.inj heq).1 hplus
  · rfl

theorem takeSign_of_isDigitKind {c : Char} (h : isDigitKind c = true) (cs : List Char) :
    takeSign (c :: cs) = (false, c :: cs) := by
  refine takeSign_cons ?_ ?_ cs
  · rintro rfl; exact absurd h (by decide)
  · rintro rfl; exact absurd h (by decide)

/-- A text with digits alone that is a numeral. -/
structure IsPlain (s : String) : Prop where
  decimal : ∀ c ∈ trim s.toList, isDecimalDigit c = true
  short : (trim s.toList).length ≤ maxDigits
  padded : ∀ c ∈ s.toList, isBlank c = true → isPadding c = true

/-- The number that a text of digits writes. -/
def valueOf (s : String) : Int := ofDigits (digitValues (trim s.toList))

/-- The text of a numeral, cut into its digits and the blanks around them. -/
theorem exists_digits {s : String} (h : allDigitKind (trim s.toList) = true) :
    ∃ front c digits back, s.toList = front ++ (c :: digits ++ back) ∧ AreBlank front ∧
      AreBlank back ∧ trim s.toList = c :: digits ∧ ∀ d ∈ c :: digits, isDigitKind d = true := by
  obtain ⟨front, back, hsplit, hfront, hback⟩ := exists_blanks_around s.toList
  obtain ⟨hnonempty, hall⟩ := Bool.and_eq_true_iff.mp h
  cases htrim : trim s.toList with
  | nil => rw [htrim] at hnonempty; exact absurd hnonempty (by decide)
  | cons c digits =>
    rw [htrim] at hsplit hall
    exact ⟨front, c, digits, back, hsplit, hfront, hback, rfl, List.all_eq_true.mp hall⟩

section Around

variable {front digits back cs : List Char} {c : Char}

/-- Where all blanks in front are allowed, reading begins at the first digit. -/
theorem dropWhile_padding (hfront : ∀ x ∈ front, isPadding x = true)
    (hc : isDigitKind c = true) : (front ++ c :: cs).dropWhile isPadding = c :: cs := by
  have hpadding : ¬ isPadding c = true := fun hpadding =>
    not_isBlank_of_isDigitKind hc (isBlank_of_isPadding hpadding)
  rw [List.dropWhile_append_of_pos hfront, List.dropWhile_cons_of_neg hpadding]

theorem endsDigits_of_blank (h : ∀ x ∈ back.head?, isBlank x = true) : EndsDigits back := by
  intro x hx
  have hblank := h x hx
  refine ⟨isDecimalDigit_of_isBlank hblank, ?_⟩
  rintro rfl
  exact absurd hblank (by decide)

theorem endsDigits_of_areBlank (h : AreBlank back) : EndsDigits back :=
  endsDigits_of_blank fun x hx => h x (List.mem_of_head? hx)

/-- Decimal digits in front of other ones end there, or at the blanks behind. -/
theorem endsDigits_dropWhile (hdigits : ∀ d ∈ digits, isDigitKind d = true)
    (hback : AreBlank back) : EndsDigits (digits.dropWhile isDecimalDigit ++ back) := by
  cases hmore : digits.dropWhile isDecimalDigit with
  | nil => exact endsDigits_of_areBlank hback
  | cons x more =>
    intro y hy
    obtain rfl := Option.some.inj hy
    have hhead := List.head?_dropWhile_not isDecimalDigit digits
    rw [hmore] at hhead
    have hin : x ∈ digits := (List.dropWhile_suffix _).subset (hmore ▸ List.mem_cons_self ..)
    refine ⟨hhead, ?_⟩
    rintro rfl
    exact absurd (hdigits _ hin) (by decide)

end Around

/-- **Plain digits are read as the number that they write.** -/
theorem readInt_plain {s : String} (h : allDigitKind (trim s.toList) = true) (hs : IsPlain s) :
    readInt s = .ok (valueOf s) := by
  obtain ⟨front, c, digits, back, hsplit, hfront, hback, htrim, hkind⟩ := exists_digits h
  have hdecimal : ∀ d ∈ c :: digits, isDecimalDigit d = true := htrim ▸ hs.decimal
  have hpadded : ∀ cs, AreBlank cs → cs ⊆ s.toList → ∀ x ∈ cs, isPadding x = true :=
    fun cs hcs hin x hx => hs.padded x (hin hx) (hcs x hx)
  have hc : isDigitKind c = true := hkind c (List.mem_cons_self ..)
  have hstart : (front ++ c :: (digits ++ back)).dropWhile isPadding = c :: (digits ++ back) :=
    dropWhile_padding (hpadded front hfront (by rw [hsplit]; exact List.subset_append_left _ _)) hc
  have hend : back.all isPadding = true := List.all_eq_true.mpr
    (hpadded back hback (by rw [hsplit, ← List.append_assoc]; exact List.subset_append_right _ _))
  have hlength : (digitValues (c :: digits)).length = (c :: digits).length :=
    List.filterMap_length_eq_length.mpr hdecimal
  have hshort := hs.short
  rw [htrim, ← hlength] at hshort
  have hnonempty : (digitValues (c :: digits)).isEmpty = false := by
    rw [List.isEmpty_eq_false_iff, ← List.length_pos_iff, hlength, List.length_cons]
    omega
  rw [readInt_of_takeDigits (hsplit ▸ hstart) (takeSign_of_isDigitKind hc _)
    (takeDigits_append (endsDigits_of_areBlank hback) (c :: digits) false hdecimal), hnonempty,
    if_neg Bool.false_ne_true, if_neg (Nat.not_lt.mpr hshort), if_pos hend, valueOf, htrim]

/-- A blank that is not allowed in front of the digits is refused. -/
theorem readInt_unpadded {s : String} {front rest : List Char} (hsplit : s.toList = front ++ rest)
    (hfront : AreBlank front) (hpadded : ¬ ∀ x ∈ front, isPadding x = true) :
    readInt s = .error .malformed := by
  cases hleft : front.dropWhile isPadding with
  | nil => exact absurd (List.dropWhile_eq_nil_iff.mp hleft) hpadded
  | cons y more =>
    have hblank : isBlank y = true :=
      hfront y ((List.dropWhile_suffix _).subset (hleft ▸ List.mem_cons_self ..))
    have hstart : s.toList.dropWhile isPadding = y :: (more ++ rest) := by
      rw [hsplit, List.dropWhile_append, hleft]
      rfl
    have hsign : takeSign (y :: (more ++ rest)) = (false, y :: (more ++ rest)) := by
      refine takeSign_cons ?_ ?_ _
      · rintro rfl; exact absurd hblank (by decide)
      · rintro rfl; exact absurd hblank (by decide)
    have hends : EndsDigits (y :: (more ++ rest)) :=
      endsDigits_of_blank fun x hx => Option.some.inj hx ▸ hblank
    exact readInt_of_takeDigits hstart hsign (takeDigits_nothing hends false)

/-- Where only blanks that are allowed follow the decimal digits in front, the digits are all
decimal. -/
theorem takeWhile_eq_of_padding {digits back : List Char}
    (hkind : ∀ d ∈ digits, isDigitKind d = true)
    (hrest : ∀ x ∈ digits.dropWhile isDecimalDigit ++ back, isPadding x = true) :
    digits.takeWhile isDecimalDigit = digits := by
  have hnone : digits.dropWhile isDecimalDigit = [] :=
    List.eq_nil_iff_forall_not_mem.mpr fun x hx =>
      not_isBlank_of_isDigitKind (hkind x ((List.dropWhile_suffix _).subset hx))
        (isBlank_of_isPadding (hrest x (List.mem_append_left _ hx)))
  have hboth := List.takeWhile_append_dropWhile (p := isDecimalDigit) (l := digits)
  rwa [hnone, List.append_nil] at hboth

/-- A text is plain if only blanks that are allowed stand in front of its digits, and follow
the decimal ones of them. -/
theorem isPlain_of_padding {s : String} {front digits back : List Char}
    (hsplit : s.toList = front ++ (digits ++ back)) (htrim : trim s.toList = digits)
    (hkind : ∀ d ∈ digits, isDigitKind d = true) (hfront : ∀ x ∈ front, isPadding x = true)
    (hrest : ∀ x ∈ digits.dropWhile isDecimalDigit ++ back, isPadding x = true)
    (hshort : (digitValues (digits.takeWhile isDecimalDigit)).length ≤ maxDigits) :
    IsPlain s := by
  have hall := takeWhile_eq_of_padding hkind hrest
  have hdecimal : ∀ d ∈ digits, isDecimalDigit d = true := by
    rw [← hall]
    exact List.all_eq_true.mp List.all_takeWhile
  have hlength : (digitValues digits).length = digits.length :=
    List.filterMap_length_eq_length.mpr hdecimal
  rw [hall, hlength] at hshort
  refine ⟨htrim ▸ hdecimal, htrim ▸ hshort, fun x hx hblank => ?_⟩
  rw [hsplit] at hx
  rcases List.mem_append.mp hx with hin | hin
  · exact hfront x hin
  · rcases List.mem_append.mp hin with hin | hin
    · exact absurd hblank (not_isBlank_of_isDigitKind (hkind x hin))
    · exact hrest x (List.mem_append_right _ hin)

/-- **Other texts of digits are refused.** -/
theorem readInt_strange {s : String} (h : allDigitKind (trim s.toList) = true)
    (hs : ¬ IsPlain s) : ∃ fault, readInt s = .error fault := by
  obtain ⟨front, c, digits, back, hsplit, hfront, hback, htrim, hkind⟩ := exists_digits h
  by_cases hpadded : ∀ x ∈ front, isPadding x = true
  · have hc : isDigitKind c = true := hkind c (List.mem_cons_self ..)
    have hstart : (front ++ c :: (digits ++ back)).dropWhile isPadding = c :: (digits ++ back) :=
      dropWhile_padding hpadded hc
    -- reading stops in front of the first digit that is not decimal, or behind all of them
    have hcut : c :: digits ++ back = (c :: digits).takeWhile isDecimalDigit
        ++ ((c :: digits).dropWhile isDecimalDigit ++ back) := by
      rw [← List.append_assoc, List.takeWhile_append_dropWhile]
    have htaken : takeDigits false (c :: digits ++ back)
        = (digitValues ((c :: digits).takeWhile isDecimalDigit),
          (c :: digits).dropWhile isDecimalDigit ++ back) := by
      rw [hcut]
      exact takeDigits_append (endsDigits_dropWhile hkind hback) _ _
        (List.all_eq_true.mp List.all_takeWhile)
    rw [readInt_of_takeDigits (hsplit ▸ hstart) (takeSign_of_isDigitKind hc _) htaken]
    split
    · exact ⟨_, rfl⟩
    · split
      · exact ⟨_, rfl⟩
      · next hshort =>
        refine ⟨.malformed, if_neg fun hrest => hs ?_⟩
        exact isPlain_of_padding hsplit htrim hkind hpadded (List.all_eq_true.mp hrest)
          (Nat.not_lt.mp hshort)
  · exact ⟨.malformed, readInt_unpadded hsplit hfront hpadded⟩

end Numeral

end PullReview
