import Mathlib.Data.List.Forall2
import PullReview.Proofs.Changes.Reading

/-!
# How far the text of a change can steer the change map

Two diffs in git's layout have one shape if nothing differs but the texts behind
the signs of their body lines (`Segment.SameShape`). The map should not depend on
those texts, and it does so in one way alone. The scan tells headers from content
by the beginnings of lines, whatever ranges the hunk header gave; so an added line
whose text begins with `++ b/` is read as the line of a new path, and the lines
behind it are taken for those of another file (`ofDiff_steered`). Any other text
is without effect, in files in scope and out of scope alike:

> `ofDiff_eq_of_sameShape`: diffs of one shape have the same map, provided no
> added line in which they differ reads like the line of a new path.

The proof goes line by line: lines of one kind move the scan in the same way from
wherever it stands (`ReadAlike`).
-/

namespace PullReview

open Text

/-! ## Diffs of one shape -/

/-- Body lines of one kind with any texts, those of added lines being in the
relation `agree`. -/
inductive BodyLine.SameKind (agree : LineText → LineText → Prop) : BodyLine → BodyLine → Prop
  | context (text text' : LineText) : SameKind agree (.context text) (.context text')
  | added {text text' : LineText} : agree text text' → SameKind agree (.added text) (.added text')
  | removed (text text' : LineText) : SameKind agree (.removed text) (.removed text')
  | remark (text : LineText) : SameKind agree (.remark text) (.remark text)

/-- Hunks with the same header and, line by line, the same kinds of body lines. -/
structure Hunk.SameShape (agree : LineText → LineText → Prop) (h h' : Hunk) : Prop where
  old : h.old = h'.old
  new : h.new = h'.new
  heading : h.heading = h'.heading
  body : List.Forall₂ (BodyLine.SameKind agree) h.body h'.body

inductive SegmentContent.SameShape (agree : LineText → LineText → Prop) :
    SegmentContent → SegmentContent → Prop
  | changed (old : LineText) (path : LinePath) {hunks hunks' : List Hunk} :
      List.Forall₂ (Hunk.SameShape agree) hunks hunks' →
      SameShape agree (.changed old path hunks) (.changed old path hunks')
  | deleted (old : LineText) {hunks hunks' : List Hunk} :
      List.Forall₂ (Hunk.SameShape agree) hunks hunks' →
      SameShape agree (.deleted old hunks) (.deleted old hunks')
  | binary (names : LineText) : SameShape agree (.binary names) (.binary names)
  | headerOnly : SameShape agree .headerOnly .headerOnly

/-- Segments with the same headers and hunks of one shape. -/
structure Segment.SameShape (agree : LineText → LineText → Prop) (s s' : Segment) : Prop where
  title : s.title = s'.title
  header : s.header = s'.header
  content : SegmentContent.SameShape agree s.content s'.content

/-- Behind the sign of an added line the text reads like the line of a new path. -/
def LineText.NamesPath (text : LineText) : Prop := "++ b/".toList <+: text.chars

/-- Texts of added lines that are the same, or of which neither reads like the
line of a new path. -/
def Harmless (text text' : LineText) : Prop :=
  text = text' ∨ ¬ text.NamesPath ∧ ¬ text'.NamesPath

/-! ## Lines that move the scan in the same way -/

/-- Two lines, as they are read, take the scan to the same place from anywhere. -/
def ReadAlike (scope : Scope) (line line' : List Char) : Prop :=
  ∀ cur, DiffCursor.step scope cur (DiffLine.ofChars line)
    = DiffCursor.step scope cur (DiffLine.ofChars line')

section ReadAlike

variable {scope : Scope}

theorem ReadAlike.refl (line : List Char) : ReadAlike scope line line := fun _ => rfl

theorem ReadAlike.of_eq {line line' : List Char}
    (h : DiffLine.ofChars line = DiffLine.ofChars line') : ReadAlike scope line line' := by
  intro cur
  rw [h]

theorem forall₂_readAlike_self (lines : List (List Char)) :
    List.Forall₂ (ReadAlike scope) lines lines :=
  List.forall₂_same.mpr fun line _ => ReadAlike.refl line

/-- The scan comes to the same end over lines that are read alike. -/
theorem foldlM_step_eq {lines lines' : List (List Char)}
    (h : List.Forall₂ (ReadAlike scope) lines lines') :
    ∀ cur, (lines.map DiffLine.ofChars).foldlM (DiffCursor.step scope) cur
      = (lines'.map DiffLine.ofChars).foldlM (DiffCursor.step scope) cur := by
  induction h with
  | nil => intro cur; rfl
  | cons hline _ ih =>
    intro cur
    rw [List.map_cons, List.map_cons, List.foldlM_cons, List.foldlM_cons, hline cur]
    exact bind_congr fun mid => ih mid

end ReadAlike

section Shape

variable (scope : Scope) (eol : LineEnd)

/-- **Lines of one kind are read alike**, unless an added one reads like the line
of a new path. -/
theorem BodyLine.SameKind.readAlike {line line' : BodyLine}
    (h : BodyLine.SameKind Harmless line line') :
    ReadAlike scope (eol.received line.chars) (eol.received line'.chars) := by
  cases h with
  | context text text' =>
    refine ReadAlike.of_eq ?_
    simp only [BodyLine.chars]
    rw [eol.received_cons (by decide), eol.received_cons (by decide), DiffLine.ofChars_context,
      DiffLine.ofChars_context]
  | @added text text' hagree =>
    rcases hagree with rfl | ⟨htext, htext'⟩
    · exact ReadAlike.refl _
    · have hkind : ∀ text : LineText, ¬ text.NamesPath →
          DiffLine.ofChars (eol.received (BodyLine.added text).chars) = .added := by
        intro text h
        rw [BodyLine.chars, eol.received_cons (by decide)]
        exact DiffLine.ofChars_added fun hp => h (hp.trans (eol.received_prefix text.chars))
      exact ReadAlike.of_eq ((hkind text htext).trans (hkind text' htext').symm)
  | removed text text' =>
    -- read as an old path or as nothing, and neither moves the scan
    have hstay : ∀ (text : LineText) (cur : DiffCursor), DiffCursor.step scope cur
        (DiffLine.ofChars (eol.received (BodyLine.removed text).chars)) = .ok cur := by
      intro text cur
      rw [BodyLine.chars, eol.received_cons (by decide)]
      rcases DiffLine.ofChars_removed (eol.received text.chars) with h | h
      · rw [h]; rfl
      · rw [h]; rfl
    exact fun cur => (hstay text cur).trans (hstay text' cur).symm
  | remark text => exact ReadAlike.refl _

theorem Hunk.SameShape.readAlike {h h' : Hunk} (hs : Hunk.SameShape Harmless h h') :
    List.Forall₂ (ReadAlike scope) (h.lines.map eol.received) (h'.lines.map eol.received) := by
  have hheader : h.header = h'.header := by
    unfold Hunk.header
    rw [hs.old, hs.new, hs.heading]
  simp only [Hunk.lines, List.map_cons, List.map_map]
  rw [hheader]
  refine List.Forall₂.cons (ReadAlike.refl _) ?_
  rw [List.forall₂_map_left_iff, List.forall₂_map_right_iff]
  exact hs.body.imp fun _ _ hline => hline.readAlike scope eol

theorem hunkLines_readAlike {hunks hunks' : List Hunk}
    (h : List.Forall₂ (Hunk.SameShape Harmless) hunks hunks') :
    List.Forall₂ (ReadAlike scope) ((hunks.flatMap Hunk.lines).map eol.received)
      ((hunks'.flatMap Hunk.lines).map eol.received) := by
  rw [List.map_flatMap, List.map_flatMap]
  exact List.rel_flatMap h fun _ _ hs => hs.readAlike scope eol

theorem SegmentContent.SameShape.readAlike {c c' : SegmentContent}
    (h : SegmentContent.SameShape Harmless c c') :
    List.Forall₂ (ReadAlike scope) (c.lines.map eol.received) (c'.lines.map eol.received) := by
  cases h with
  | changed old path hhunks =>
    exact .cons (ReadAlike.refl _) (.cons (ReadAlike.refl _)
      (hunkLines_readAlike scope eol hhunks))
  | deleted old hhunks =>
    exact .cons (ReadAlike.refl _) (.cons (ReadAlike.refl _)
      (hunkLines_readAlike scope eol hhunks))
  | binary | headerOnly => exact forall₂_readAlike_self _

theorem Segment.SameShape.readAlike {s s' : Segment} (h : Segment.SameShape Harmless s s') :
    List.Forall₂ (ReadAlike scope) (s.lines.map eol.received) (s'.lines.map eol.received) := by
  simp only [Segment.lines, List.map_cons, List.map_append]
  rw [h.title, h.header]
  exact .cons (ReadAlike.refl _)
    (List.rel_append (forall₂_readAlike_self _) (h.content.readAlike scope eol))

/-! ## Whole diffs -/

/-- **The text of a change does not steer the map**, as long as no added line that
differs reads like the line of a new path: diffs of one shape have the same map,
and if one of them cannot be read, the other fails in the same way. -/
theorem ofDiff_eq_of_sameShape {segments segments' : List Segment}
    (h : List.Forall₂ (Segment.SameShape Harmless) segments segments') :
    ChangeMap.ofDiff scope (diffText eol segments)
      = ChangeMap.ofDiff scope (diffText eol segments') := by
  have hlines : List.Forall₂ (ReadAlike scope) (unixLines (diffText eol segments).toList)
      (unixLines (diffText eol segments').toList) := by
    rw [unixLines_diffText, unixLines_diffText, List.map_flatMap, List.map_flatMap]
    refine List.rel_append ?_ (forall₂_readAlike_self _)
    exact List.rel_flatMap h fun _ _ hs => hs.readAlike scope eol
  unfold ChangeMap.ofDiff
  dsimp only
  rw [foldlM_step_eq hlines]

end Shape

/-! A file that gets two lines. Were the first one written as `++ b/notes.md`, the
second one would not count as a line of the file. -/

/-- A file with two lines added, the first one with a given text. -/
def twoAdded (first : LineText) : List Segment :=
  let heading : LineText := ⟨" main".toList, by decide⟩
  let range (n : Nat) : HunkRange := ⟨.ofNat n, some (.ofNat 2)⟩
  [ ⟨⟨" a/web/a.ts b/web/a.ts".toList, by decide⟩, [],
      .changed ⟨"a/web/a.ts".toList, by decide⟩ ⟨"web/a.ts", by decide, by decide⟩
        [⟨range 0, range 1, heading, [.added first, .added ⟨"let y".toList, by decide⟩]⟩]⟩ ]

def usualText : LineText := ⟨"let x".toList, by decide⟩

def pathLikeText : LineText := ⟨"++ b/notes.md".toList, by decide⟩

theorem sameShape_twoAdded {agree : LineText → LineText → Prop} {first first' : LineText}
    (h : agree first first') (hrefl : ∀ text, agree text text) :
    List.Forall₂ (Segment.SameShape agree) (twoAdded first) (twoAdded first') := by
  refine .cons ⟨rfl, rfl, .changed _ _ (.cons ⟨rfl, rfl, rfl, ?_⟩ .nil)⟩ .nil
  exact .cons (.added h) (.cons (.added (hrefl _)) .nil)

theorem ofDiff_eq_of_sameShape_twoAdded :
    List.Forall₂ (Segment.SameShape Harmless) (twoAdded usualText)
        (twoAdded ⟨"@@ -1 +9 @@".toList, by decide⟩) ∧
      ChangeMap.ofDiff {} (diffText .crlf (twoAdded usualText))
        = ChangeMap.ofDiff {} (diffText .crlf (twoAdded ⟨"@@ -1 +9 @@".toList, by decide⟩)) :=
  have h : List.Forall₂ (Segment.SameShape Harmless) _ _ :=
    sameShape_twoAdded (Or.inr ⟨by unfold LineText.NamesPath; decide,
      by unfold LineText.NamesPath; decide⟩) fun _ => Or.inl rfl
  ⟨h, ofDiff_eq_of_sameShape {} .crlf h⟩

/-- With any texts allowed, diffs of one shape may have different maps: a line
written into a file takes the next one out of the review. -/
theorem ofDiff_steered :
    List.Forall₂ (Segment.SameShape fun _ _ => True) (twoAdded usualText)
        (twoAdded pathLikeText) ∧
      ChangeMap.ofDiff {} (diffText .lf (twoAdded usualText)) = .ok ⟨[("web/a.ts", [2, 1])]⟩ ∧
      ChangeMap.ofDiff {} (diffText .lf (twoAdded pathLikeText)) = .ok ⟨[("web/a.ts", [])]⟩ :=
  ⟨sameShape_twoAdded trivial fun _ => trivial, by decide +kernel, by decide +kernel⟩

end PullReview
