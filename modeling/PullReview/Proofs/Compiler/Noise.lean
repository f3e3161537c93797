import Mathlib.Data.List.Basic
import PullReview.Compiler.Message
import PullReview.Path
import PullReview.Proofs.Text.Lines

/-!
# Imports that are passed over

The checker says which module it cannot find. If it is a package, it may not be installed, and
the problem is passed over; a relative specifier names a place in the project, and its problem
stays. The two are told apart by what stands behind the opening quote.

> `isNoise_unresolved_iff`: an import that is not found is passed over just if it is not
> relative, or leads to the folder of the file or the one above, by `.` or `..` alone.

The phrase with the quote may stand anywhere in a message (`missesPackage_iff`). In a message
with two quotes it stands at the first one (`missesPackage_quoted`).
-/

namespace PullReview

namespace Text

/-- What does not hold the character at which a text ends begins the text, or nothing of it. -/
theorem isPrefix_append_cons_iff {α : Type} {front cs rest : List α} {c : α} (h : c ∉ front) :
    front <+: cs ++ c :: rest ↔ front <+: cs := by
  refine ⟨fun hfront => ?_, fun hfront => hfront.trans (List.prefix_append ..)⟩
  rcases Nat.le_total front.length cs.length with hle | hle
  · exact List.prefix_of_prefix_length_le hfront (List.prefix_append ..) hle
  · -- a longer beginning than `cs` holds the character behind it
    obtain ⟨more, rfl⟩ :=
      List.prefix_of_prefix_length_le (List.prefix_append cs (c :: rest)) hfront hle
    cases more with
    | nil => exact ⟨[], by rw [List.append_nil, List.append_nil]⟩
    | cons d more =>
      have hmore := (List.prefix_append_right_inj cs).mp hfront
      obtain rfl := (List.cons_prefix_cons.mp hmore).1
      exact absurd (List.mem_append_right cs (List.mem_cons_self ..)) h

end Text

namespace CompilerMessage

open Text

/-- What the checker says in front of the quoted specifier of a module. -/
def notFoundPhrase : List Char := "Cannot find module ".toList

/-- What the checker says of an import that leads nowhere. -/
def unresolved (specifier : String) : String :=
  "Cannot find module '" ++ specifier ++ "' or its corresponding type declarations."

/-- A specifier that leads on from the file: a dot or two, alone or as the first component. -/
def IsRelative (specifier : String) : Prop :=
  specifier = "." ∨ specifier = ".." ∨
    (Path.pieces specifier).head? = some "." ∨ (Path.pieces specifier).head? = some ".."

/-! ## Where the phrase stands -/

/-- The message names a package that is missing just if the phrase stands somewhere in it, with
the name of a package behind the quote. -/
theorem missesPackage_iff {cs : List Char} :
    missesPackage cs = true ↔
      ∃ front rest, cs = front ++ (notFoundPhrase ++ '\'' :: rest) ∧ namesPackage rest = true := by
  induction cs with
  | nil =>
    refine ⟨fun h => absurd h (by simp [missesPackage]), ?_⟩
    rintro ⟨front, rest, h, -⟩
    exact absurd h.symm (by simp)
  | cons c cs ih =>
    unfold missesPackage
    rw [Bool.or_eq_true, ih]
    constructor
    · rintro (hhere | ⟨front, rest, rfl, hrest⟩)
      · split at hhere
        · next rest hrest =>
          refine ⟨[], rest, ?_, hhere⟩
          exact (List.isPrefixOf?_eq_some_iff_append_eq.mp hrest).symm
        · exact absurd hhere Bool.false_ne_true
      · exact ⟨c :: front, rest, rfl, hrest⟩
    · rintro ⟨front, rest, h, hrest⟩
      cases front with
      | nil =>
        have hphrase : "Cannot find module '".toList.isPrefixOf? (c :: cs) = some rest :=
          List.isPrefixOf?_eq_some_iff_append_eq.mpr h.symm
        rw [hphrase]
        exact Or.inl hrest
      | cons d front => exact Or.inr ⟨front, rest, (List.cons.inj h).2, hrest⟩

/-- The name of a package is closed by a quote. -/
theorem quote_mem_of_namesPackage {cs : List Char} (h : namesPackage cs = true) : '\'' ∈ cs := by
  unfold namesPackage at h
  cases cs with
  | nil => simp at h
  | cons c cs =>
    rw [Bool.and_eq_true] at h
    exact List.contains_iff_mem.mp (Bool.and_eq_true_iff.mp h.2).2

/-- With two quotes in the message there is one place for the phrase. -/
theorem missesPackage_quoted {specifier rest : List Char} (hspecifier : '\'' ∉ specifier)
    (hrest : '\'' ∉ rest) :
    missesPackage (notFoundPhrase ++ '\'' :: (specifier ++ '\'' :: rest))
      = namesPackage (specifier ++ '\'' :: rest) := by
  rw [Bool.eq_iff_iff, missesPackage_iff]
  refine ⟨?_, fun h => ⟨[], _, rfl, h⟩⟩
  rintro ⟨front, behind, heq, hbehind⟩
  have hphrase : '\'' ∉ notFoundPhrase := by decide
  have hfront : '\'' ∉ front := by
    -- the phrase takes one of the two quotes, and the name behind it the other
    have hcount := congrArg (List.count '\'') heq
    have hone : 0 < behind.count '\'' := List.count_pos_iff.mpr (quote_mem_of_namesPackage hbehind)
    simp only [List.count_append, List.count_cons_self, List.count_eq_zero.mpr hspecifier,
      List.count_eq_zero.mpr hrest, List.count_eq_zero.mpr hphrase] at hcount
    exact List.count_eq_zero.mp (by omega)
  have hbefore : '\'' ∉ front ++ notFoundPhrase := by
    rw [List.mem_append, not_or]
    exact ⟨hfront, hphrase⟩
  rw [← List.append_assoc] at heq
  -- in front of the first quote the two are the same, so nothing stands before the phrase
  have hfirst := congrArg (fun cs => (splitAtEach '\'' cs).head?) heq
  simp only [splitAtEach_append '\'' _ _ hphrase, splitAtEach_append '\'' _ _ hbefore,
    List.head?_cons, Option.some.injEq] at hfirst
  rw [← hfirst, List.append_cancel_left_eq, List.cons.injEq] at heq
  rw [heq.2]
  exact hbehind

/-! ## What stands in quotes -/

/-- A quoted specifier names a package unless it begins with a folder to start from. -/
theorem namesPackage_quoted {specifier rest : List Char} (hne : specifier ≠ [])
    (hquote : '\'' ∉ specifier) :
    namesPackage (specifier ++ '\'' :: rest) = true ↔
      ¬ ['.', '/'] <+: specifier ∧ ¬ ['.', '.', '/'] <+: specifier := by
  have hhere : "./".toList.isPrefixOf (specifier ++ '\'' :: rest) = true ↔
      ['.', '/'] <+: specifier := by
    rw [List.isPrefixOf_iff_prefix]
    exact isPrefix_append_cons_iff (by decide)
  have habove : "../".toList.isPrefixOf (specifier ++ '\'' :: rest) = true ↔
      ['.', '.', '/'] <+: specifier := by
    rw [List.isPrefixOf_iff_prefix]
    exact isPrefix_append_cons_iff (by decide)
  obtain ⟨c, cs, rfl⟩ := List.exists_cons_of_ne_nil hne
  have hclosed : (decide (c ≠ '\'') && (c :: cs ++ '\'' :: rest).contains '\'') = true := by
    have hc : c ≠ '\'' := fun h => hquote (h ▸ List.mem_cons_self ..)
    rw [Bool.and_eq_true, decide_eq_true_eq, List.contains_iff_mem]
    exact ⟨hc, List.mem_append_right _ (List.mem_cons_self ..)⟩
  show (!_ && !_ && (decide (c ≠ '\'') && (c :: cs ++ '\'' :: rest).contains '\'')) = true ↔ _
  rw [hclosed, Bool.and_true, Bool.and_eq_true, Bool.not_eq_true', Bool.not_eq_true',
    ← Bool.not_eq_true, ← Bool.not_eq_true, hhere, habove]

/-- The first component of a specifier, by how its characters begin. -/
theorem head?_pieces_iff {specifier name : String} (hname : '/' ∉ name.toList) :
    (Path.pieces specifier).head? = some name ↔
      specifier = name ∨ name.toList ++ ['/'] <+: specifier.toList := by
  have hpiece : (Path.pieces specifier).head? = some name ↔
      (splitAtEach '/' specifier.toList).head? = some name.toList := by
    unfold Path.pieces
    rw [List.head?_map, Option.map_eq_some_iff]
    constructor
    · rintro ⟨piece, hpiece, rfl⟩
      rw [hpiece, String.toList_ofList]
    · intro hhead
      exact ⟨name.toList, hhead, String.ofList_toList⟩
  rw [hpiece, head?_splitAtEach_iff hname, String.toList_inj]

/-- A specifier is relative just if it begins with a folder to start from, or is one. -/
theorem isRelative_iff {specifier : String} :
    IsRelative specifier ↔ specifier = "." ∨ specifier = ".." ∨
      ['.', '/'] <+: specifier.toList ∨ ['.', '.', '/'] <+: specifier.toList := by
  unfold IsRelative
  rw [head?_pieces_iff (by decide), head?_pieces_iff (by decide)]
  show _ ∨ _ ∨ (_ ∨ ['.', '/'] <+: _) ∨ (_ ∨ ['.', '.', '/'] <+: _) ↔ _
  tauto

/-- **Which imports are passed over.** An import that is not found is passed over just if its
specifier is not relative, or is one of the two folders alone. -/
theorem isNoise_unresolved_iff (specifier : String) (hne : specifier ≠ "")
    (hquote : '\'' ∉ specifier.toList) :
    isNoise 2307 (unresolved specifier) = true ↔
      ¬ IsRelative specifier ∨ specifier = "." ∨ specifier = ".." := by
  have hchars : (unresolved specifier).toList = notFoundPhrase ++ '\'' ::
      (specifier.toList ++ '\'' :: " or its corresponding type declarations.".toList) := by
    unfold unresolved
    rw [String.toList_append, String.toList_append, List.append_assoc]
    rfl
  have hnonempty : specifier.toList ≠ [] := fun h => hne (String.toList_inj.mp h)
  unfold isNoise
  rw [if_pos rfl, hchars, missesPackage_quoted hquote (by decide),
    namesPackage_quoted hnonempty hquote, isRelative_iff]
  by_cases hfolder : specifier = "." ∨ specifier = ".."
  · -- nothing stands behind the folder, so it is not seen as a place to start from
    have hbare : ¬ ['.', '/'] <+: specifier.toList ∧ ¬ ['.', '.', '/'] <+: specifier.toList := by
      rcases hfolder with rfl | rfl <;> decide
    exact ⟨fun _ => Or.inr hfolder, fun _ => hbare⟩
  · obtain ⟨hhere, habove⟩ := not_or.mp hfolder
    simp only [hhere, habove, false_or, or_false, not_or]

theorem isNoise_unresolved_scoped :
    isNoise 2307 (unresolved "@scope/pkg") = true ∧
      ¬ isNoise 2307 (unresolved "./@scope") = true := by
  constructor
  · refine (isNoise_unresolved_iff "@scope/pkg" (by decide) (by decide)).mpr (Or.inl ?_)
    rw [isRelative_iff]
    decide
  · rw [isNoise_unresolved_iff "./@scope" (by decide) (by decide), isRelative_iff]
    decide

/-- The folder above is relative, and an import of it is passed over. -/
theorem isNoise_folderAbove : IsRelative ".." ∧ isNoise 2307 (unresolved "..") = true :=
  ⟨Or.inr (Or.inl rfl), by decide⟩

end CompilerMessage

end PullReview
