import Mathlib.Data.List.Basic
import PullReview.Proofs.Changes.Layout

/-!
# How the lines of a diff are told apart

`DiffLine.ofChars` looks at the beginning of a line alone. For each kind of line
that the layout prints, this says what it is told to be, whatever text follows,
with either line end. Two kinds need a word: an added line whose text begins with
`++ b/` would be told to be a new path, and a hunk header is found by reading its
numbers.
-/

namespace PullReview

open Text

namespace DiffLine

/-- A line is the line of a new path exactly if it begins like one. -/
theorem ofChars_newFile_iff {cs path : List Char} :
    ofChars cs = .newFile path ↔ cs = "+++ b/".toList ++ path := by
  unfold ofChars
  constructor
  · intro h
    split at h
    · next found hfound =>
      injection h with h
      rw [← h]
      exact (List.isPrefixOf?_eq_some_iff_append_eq.mp hfound).symm
    · repeat' split at h
      all_goals exact DiffLine.noConfusion h
  · rintro rfl
    rfl

theorem ofChars_ne_newFile {cs : List Char} (h : ¬ "+++ b/".toList <+: cs) (path : List Char) :
    ofChars cs ≠ .newFile path := fun he =>
  h ⟨path, (ofChars_newFile_iff.mp he).symm⟩

theorem ofChars_title (text : List Char) : ofChars ("diff --git".toList ++ text) = .boundary := rfl

theorem ofChars_oldPath (text : List Char) : ofChars ("--- ".toList ++ text) = .oldFile := rfl

theorem ofChars_newPath (text : List Char) : ofChars ("+++ b/".toList ++ text) = .newFile text :=
  rfl

theorem ofChars_context (text : List Char) : ofChars (' ' :: text) = .context := rfl

theorem ofChars_remark (text : List Char) : ofChars ('\\' :: text) = .other := rfl

theorem ofChars_added {text : List Char} (h : ¬ "++ b/".toList <+: text) :
    ofChars ('+' :: text) = .added := by
  have hpath : "+++ b/".toList.isPrefixOf? ('+' :: text) = none := by
    rw [Option.eq_none_iff_forall_ne_some]
    intro rest hrest
    have happ := List.isPrefixOf?_eq_some_iff_append_eq.mp hrest
    exact h ⟨rest, (List.cons.inj happ).2⟩
  rw [ofChars, hpath]
  rfl

/-- A removed line is an old path if its text begins with `-- `, else nothing. -/
theorem ofChars_removed (text : List Char) :
    ofChars ('-' :: text) = .oldFile ∨ ofChars ('-' :: text) = .other := by
  show (if "-- ".toList.isPrefixOf text then DiffLine.oldFile else DiffLine.other) = .oldFile ∨
    (if "-- ".toList.isPrefixOf text then DiffLine.oldFile else DiffLine.other) = .other
  split
  · exact Or.inl rfl
  · exact Or.inr rfl

/-! ## Hunk headers -/

/-- A range is taken up to the space behind it. -/
theorem takeRange?_append (r : HunkRange) (rest : List Char) :
    takeRange? (r.chars ++ ' ' :: rest)
      = some (Numeral.digitValues r.start.chars, ' ' :: rest) := by
  have hspace : NoDigitFirst (' ' :: rest) := by
    intro c hc
    obtain rfl : ' ' = c := Option.some.inj hc
    decide
  cases hcount : r.count with
  | none =>
    have hchars : r.chars = r.start.chars := by rw [HunkRange.chars, hcount]
    rw [hchars, takeRange?, r.start.digitsInFront?_append hspace]
    rfl
  | some count =>
    have hcomma : NoDigitFirst (',' :: (count.chars ++ ' ' :: rest)) := by
      intro c hc
      obtain rfl : ',' = c := Option.some.inj hc
      decide
    have hchars : r.chars ++ ' ' :: rest
        = r.start.chars ++ ',' :: (count.chars ++ ' ' :: rest) := by
      rw [HunkRange.chars, hcount, List.append_assoc, List.cons_append]
    rw [hchars, takeRange?, r.start.digitsInFront?_append hcomma]
    simp only [count.digitsInFront?_append hspace]

/-- A hunk header is recognised, and the first number of its new range found,
whatever stands behind the ranges. -/
theorem ofChars_hunkHeader (old new : HunkRange) (heading : List Char) :
    ofChars (hunkHeader old new heading) = .hunk (Numeral.digitValues new.start.chars) := by
  have hfront : "@@ -".toList.isPrefixOf? (hunkHeader old new heading)
      = some (old.chars ++ ' ' :: ('+' :: (new.chars ++ ' ' :: ("@@".toList ++ heading)))) := rfl
  have hmiddle : " +".toList.isPrefixOf?
      (' ' :: ('+' :: (new.chars ++ ' ' :: ("@@".toList ++ heading))))
      = some (new.chars ++ ' ' :: ("@@".toList ++ heading)) := rfl
  have hback : " @@".toList.isPrefixOf? (' ' :: ("@@".toList ++ heading)) = some heading := rfl
  have hstart : hunkStart? (hunkHeader old new heading)
      = some (Numeral.digitValues new.start.chars) := by
    simp only [hunkStart?, hfront, Option.bind_eq_bind, Option.bind_some, takeRange?_append,
      hmiddle, hback]
    rfl
  -- none of the beginnings that are looked for first fits
  have hnew : "+++ b/".toList.isPrefixOf? (hunkHeader old new heading) = none := rfl
  have hold : "--- ".toList.isPrefixOf (hunkHeader old new heading) = false := rfl
  have hbinary : "Binary files".toList.isPrefixOf (hunkHeader old new heading) = false := rfl
  have htitle : "diff --git".toList.isPrefixOf (hunkHeader old new heading) = false := rfl
  unfold ofChars
  rw [hnew, hold, hbinary, htitle, hstart]
  rfl

theorem exists_of_takeRange? {cs rest : List Char} {ds : List Nat}
    (h : takeRange? cs = some (ds, rest)) :
    ∃ r : HunkRange, cs = r.chars ++ rest ∧ ds = Numeral.digitValues r.start.chars := by
  unfold takeRange? at h
  split at h
  · next start more hstart =>
    obtain ⟨d, rfl, rfl⟩ := DigitText.exists_of_digitsInFront? hstart
    split at h
    · next count hcount =>
      obtain ⟨rfl, rfl⟩ := Prod.mk.inj (Option.some.inj h)
      obtain ⟨c, rfl, -⟩ := DigitText.exists_of_digitsInFront? hcount
      exact ⟨⟨d, some c⟩, by simp [HunkRange.chars], rfl⟩
    · obtain ⟨rfl, rfl⟩ := Prod.mk.inj (Option.some.inj h)
      exact ⟨⟨d, none⟩, rfl, rfl⟩
  · obtain ⟨d, rfl, rfl⟩ := DigitText.exists_of_digitsInFront? h
    exact ⟨⟨d, none⟩, rfl, rfl⟩

theorem exists_of_hunkStart? {cs : List Char} {ds : List Nat} (h : hunkStart? cs = some ds) :
    ∃ old new heading, cs = hunkHeader old new heading ∧
      ds = Numeral.digitValues new.start.chars := by
  simp only [hunkStart?, Option.bind_eq_bind, Option.bind_eq_some_iff] at h
  obtain ⟨rest, hfront, ⟨_, rest'⟩, hold, rest'', hmiddle, ⟨start, back⟩, hnew, heading, hback,
    hds⟩ := h
  obtain ⟨old, rfl, -⟩ := exists_of_takeRange? hold
  obtain ⟨new, rfl, hstart⟩ := exists_of_takeRange? hnew
  have hcs := List.isPrefixOf?_eq_some_iff_append_eq.mp hfront
  have hrest' : " +".toList ++ (new.chars ++ back) = rest' :=
    List.isPrefixOf?_eq_some_iff_append_eq.mp hmiddle
  have hheading : " @@".toList ++ heading = back := List.isPrefixOf?_eq_some_iff_append_eq.mp hback
  refine ⟨old, new, heading, ?_, (Option.some.inj hds).symm.trans hstart⟩
  rw [← hcs, ← hrest', ← hheading, hunkHeader]

/-- What a line is told to be with none of the beginnings that are looked for first. -/
def ofContent (cs : List Char) : DiffLine :=
  match hunkStart? cs with
  | some start => .hunk start
  | none => match cs with
    | '+' :: _ => .added
    | ' ' :: _ => .context
    | _ => .other

theorem ofChars_eq_ofContent {cs : List Char} (hnew : ∀ path, ofChars cs ≠ .newFile path)
    (hold : ofChars cs ≠ .oldFile) (hboundary : ofChars cs ≠ .boundary) :
    ofChars cs = ofContent cs := by
  unfold ofChars at hnew hold hboundary ⊢
  split
  · next path hpath => exact absurd (by rw [hpath]) (hnew path)
  · next hpath =>
    rw [hpath] at hold hboundary
    split
    · next h => exact absurd (if_pos h) hold
    · next h =>
      rw [if_neg h] at hboundary
      split
      · next h' => exact absurd (if_pos h') hboundary
      · next h' =>
        rw [if_neg h'] at hboundary
        split
        · next h'' => exact absurd (if_pos h'') hboundary
        · rfl

/-- **Nothing else is taken for a hunk header.** -/
theorem exists_of_ofChars_hunk {cs : List Char} {ds : List Nat} (h : ofChars cs = .hunk ds) :
    ∃ old new heading, cs = hunkHeader old new heading ∧
      ds = Numeral.digitValues new.start.chars := by
  have hbody : ofChars cs = ofContent cs :=
    ofChars_eq_ofContent (by simp [h]) (by simp [h]) (by simp [h])
  rw [h] at hbody
  unfold ofContent at hbody
  split at hbody
  · next start hstart =>
    injection hbody with hds
    exact exists_of_hunkStart? (hds ▸ hstart)
  · split at hbody <;> exact DiffLine.noConfusion hbody

/-- An added line begins with its sign, and not like the line of a new path. -/
theorem exists_of_ofChars_added {cs : List Char} (h : ofChars cs = .added) :
    (∃ text, cs = '+' :: text) ∧ ¬ "+++ b/".toList <+: cs := by
  constructor
  · have hbody : ofChars cs = ofContent cs :=
      ofChars_eq_ofContent (by simp [h]) (by simp [h]) (by simp [h])
    rw [h] at hbody
    unfold ofContent at hbody
    split at hbody
    · exact DiffLine.noConfusion hbody
    · split at hbody
      · next text _ => exact ⟨text, rfl⟩
      · exact DiffLine.noConfusion hbody
      · exact DiffLine.noConfusion hbody
  · rintro ⟨path, rfl⟩
    rw [ofChars_newPath] at h
    exact DiffLine.noConfusion h

end DiffLine

/-! ## What is received of a printed line -/

theorem HunkRange.return_not_mem (r : HunkRange) : '\r' ∉ r.chars := by
  have hstart := r.start.return_not_mem
  unfold HunkRange.chars
  split
  · next count _ =>
    have hcount := count.return_not_mem
    simp [hstart, hcount]
  · exact hstart

/-- A hunk header arrives but for the end of the text behind its ranges. -/
theorem received_hunkHeader (eol : LineEnd) (old new : HunkRange) (heading : List Char) :
    eol.received (hunkHeader old new heading) = hunkHeader old new (eol.received heading) := by
  have hold := old.return_not_mem
  have hnew := new.return_not_mem
  unfold hunkHeader
  rw [eol.received_append (by decide), eol.received_append hold, eol.received_append (by decide),
    eol.received_append hnew, eol.received_append (by decide)]

end PullReview
