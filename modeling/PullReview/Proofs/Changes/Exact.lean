import PullReview.Proofs.Changes.Reading

/-!
# The change map is exact over the whole layout

A segment of a diff in git's layout adds its file to the map if the file's text
changed and it is in scope, and touches the lines that its hunks add; nothing
else changes (`reads_segment`). Whatever the scan was doing before is ended by
the segment's title line, so this composes over segments (`reads_segments`) and
gives the map of the whole diff.

> `ofDiff_diffText`: the map's files are the changed files in scope, and the
> touched lines of each are the lines that the hunks of all its segments add.

Numbers in headers are texts of digits; `DigitText.ofNat` writes a number the
usual way, and `DigitText.value_ofNat` reads it back.
-/

namespace PullReview

open Text

/-- Between two maps some segments were read: their changed files in scope were
entered, and the lines that they add were touched. -/
structure MapGrown (scope : Scope) (segments : List Segment) (before after : ChangeMap) : Prop where
  nodup : before.paths.Nodup → after.paths.Nodup
  paths : ∀ path, path ∈ after.paths ↔
    path ∈ before.paths ∨
      (scope.admits path = true ∧ ∃ s ∈ segments, s.newPath? = some path)
  touches : ∀ path k, after.touches path k = true ↔
    before.touches path k = true ∨
      (scope.admits path = true ∧
        ∃ s ∈ segments, s.newPath? = some path ∧ ∃ h ∈ s.hunks, ∃ n : Nat, k = n ∧ h.Adds n)

namespace MapGrown

variable {scope : Scope} {m m' m'' : ChangeMap}

theorem nil : MapGrown scope [] m m where
  nodup := id
  paths := by simp
  touches := by simp

/-- Segments that enter no file leave the map. -/
theorem of_no_path {s : Segment} (h : ∀ path, s.newPath? = some path → scope.admits path = false) :
    MapGrown scope [s] m m where
  nodup := id
  paths := by
    intro path
    constructor
    · exact Or.inl
    · rintro (hin | ⟨hadmits, t, ht, hpath⟩)
      · exact hin
      · obtain rfl := List.mem_singleton.mp ht
        exact absurd hadmits (by simp [h path hpath])
  touches := by
    intro path k
    constructor
    · exact Or.inl
    · rintro (hin | ⟨hadmits, t, ht, hpath, _⟩)
      · exact hin
      · obtain rfl := List.mem_singleton.mp ht
        exact absurd hadmits (by simp [h path hpath])

/-- A segment that enters its file and touches what its hunks add. -/
theorem of_changed {s : Segment} {path : String} (hadmits : scope.admits path = true)
    (hnew : s.newPath? = some path) (hpaths : m'.paths = (m.withFile path).paths)
    (htouches : ∀ q k, m'.touches q k = true ↔
      m.touches q k = true ∨ (q = path ∧ ∃ n : Nat, k = n ∧ ∃ h ∈ s.hunks, h.Adds n)) :
    MapGrown scope [s] m m' where
  nodup := fun h => hpaths ▸ ChangeMap.nodup_paths_withFile h path
  paths := by
    intro q
    rw [hpaths, ChangeMap.mem_paths_withFile]
    constructor
    · rintro (hq | rfl)
      · exact Or.inl hq
      · exact Or.inr ⟨hadmits, s, List.mem_singleton_self s, hnew⟩
    · rintro (hq | ⟨_, t, ht, hq⟩)
      · exact Or.inl hq
      · rw [List.mem_singleton.mp ht, hnew, Option.some.injEq] at hq
        exact Or.inr hq.symm
  touches := by
    intro q k
    rw [htouches]
    constructor
    · rintro (hq | ⟨rfl, n, hk, h, hh, hn⟩)
      · exact Or.inl hq
      · exact Or.inr ⟨hadmits, s, List.mem_singleton_self s, hnew, h, hh, n, hk, hn⟩
    · rintro (hq | ⟨_, t, ht, hq, h, hh, n, hk, hn⟩)
      · exact Or.inl hq
      · obtain rfl := List.mem_singleton.mp ht
        rw [hnew, Option.some.injEq] at hq
        exact Or.inr ⟨hq.symm, n, hk, h, hh, hn⟩

theorem append {front back : List Segment} (h : MapGrown scope front m m')
    (h' : MapGrown scope back m' m'') : MapGrown scope (front ++ back) m m'' where
  nodup := h'.nodup ∘ h.nodup
  paths := by
    intro path
    rw [h'.paths, h.paths]
    simp only [List.mem_append, or_and_right, exists_or, and_or_left]
    exact or_assoc
  touches := by
    intro path k
    rw [h'.touches, h.touches]
    simp only [List.mem_append, or_and_right, exists_or, and_or_left]
    exact or_assoc

end MapGrown

/-- No added line of the segment reads like the line of a new path, and no first
new line number has more digits than are read. -/
def Segment.Readable (s : Segment) : Prop := ∀ h ∈ s.hunks, h.Plain ∧ h.Short

/-! ## Lines that are passed over outside a reviewed file -/

/-- A printed line that does not begin like a new path does not arrive as one. -/
theorem received_noPath (eol : LineEnd) {line : List Char} (h : ¬ "+++ b/".toList <+: line) :
    ¬ "+++ b/".toList <+: eol.received line := fun hp => h (hp.trans (eol.received_prefix line))

theorem BodyLine.noPath {line : BodyLine}
    (h : ∀ text, line = .added text → ¬ "++ b/".toList <+: text.chars) :
    ¬ "+++ b/".toList <+: line.chars := by
  cases line with
  | context text => exact fun hp => absurd (List.cons_prefix_cons.mp hp).1 (by decide)
  | added text => exact fun hp => h text rfl (List.cons_prefix_cons.mp hp).2
  | removed text => exact fun hp => absurd (List.cons_prefix_cons.mp hp).1 (by decide)
  | remark text => exact fun hp => absurd (List.cons_prefix_cons.mp hp).1 (by decide)

theorem hunkLines_noPath {hunks : List Hunk} (hplain : ∀ h ∈ hunks, h.Plain) :
    ∀ l ∈ hunks.flatMap Hunk.lines, ¬ "+++ b/".toList <+: l := by
  intro l hl
  obtain ⟨h, hh, hmem⟩ := List.mem_flatMap.mp hl
  rcases List.mem_cons.mp hmem with rfl | hbody
  · exact fun hp => absurd (List.cons_prefix_cons.mp hp).1 (by decide)
  · obtain ⟨line, hline, rfl⟩ := List.mem_map.mp hbody
    exact BodyLine.noPath fun text ht => hplain h hh text (ht ▸ hline)

/-- What stands in a segment that changes no file's text. -/
theorem contentLines_noPath {c : SegmentContent} (hpath : c.newPath? = none)
    (hplain : ∀ h ∈ c.hunks, h.Plain) : ∀ l ∈ c.lines, ¬ "+++ b/".toList <+: l := by
  intro l hl
  cases c with
  | changed old path hunks => exact absurd hpath (by simp [SegmentContent.newPath?])
  | deleted old hunks =>
    rcases List.mem_cons.mp hl with rfl | hl
    · exact fun hp => absurd (List.cons_prefix_cons.mp hp).1 (by decide)
    · rcases List.mem_cons.mp hl with rfl | hl
      · decide
      · exact hunkLines_noPath hplain l hl
  | binary names =>
    obtain rfl := List.mem_singleton.mp hl
    exact fun hp => absurd (List.cons_prefix_cons.mp hp).1 (by decide)
  | headerOnly => exact absurd hl List.not_mem_nil

/-! ## One segment -/

section Segments

variable (scope : Scope) (eol : LineEnd)

/-- Lines that name no new path are passed over outside a file. -/
theorem reads_passed {cur : DiffCursor} (hfile : cur.file = none) {lines : List (List Char)}
    (h : ∀ l ∈ lines, ¬ "+++ b/".toList <+: l) :
    Reads scope cur (lines.map eol.received) cur := by
  refine reads_idle hfile _ fun l hl => ?_
  obtain ⟨line, hline, rfl⟩ := List.mem_map.mp hl
  exact received_noPath eol (h line hline)

/-- The line of a new path is read as that path. -/
theorem ofChars_received_newPath (path : LinePath) :
    DiffLine.ofChars (eol.received ("+++ b/".toList ++ path.text.toList))
      = .newFile path.text.toList := by
  rw [eol.received_append (by decide), eol.received_eq_self path.noReturn,
    DiffLine.ofChars_newPath]

/-- A changed file out of scope is passed over with its hunks. -/
theorem reads_outOfScope {cur : DiffCursor} (hfile : cur.file = none) {path : LinePath}
    (hadmits : scope.admits path.text = false) {hunks : List Hunk}
    (hplain : ∀ h ∈ hunks, h.Plain) :
    Reads scope cur
      ((("+++ b/".toList ++ path.text.toList) :: hunks.flatMap Hunk.lines).map eol.received)
      cur := by
  have hstep : DiffCursor.step scope cur
      (DiffLine.ofChars (eol.received ("+++ b/".toList ++ path.text.toList))) = .ok cur := by
    rw [ofChars_received_newPath]
    simp only [DiffCursor.step, String.ofList_toList, hadmits]
    obtain ⟨map, file, line⟩ := cur
    subst hfile
    rfl
  exact Reads.cons hstep (reads_passed scope eol hfile (hunkLines_noPath hplain))

/-- A changed file in scope is entered, and touched where its hunks add. -/
theorem reads_inScope (cur : DiffCursor) {path : LinePath} (hadmits : scope.admits path.text = true)
    {hunks : List Hunk} (hgood : ∀ h ∈ hunks, h.Plain ∧ h.Short) :
    ∃ next, Reads scope cur
        ((("+++ b/".toList ++ path.text.toList) :: hunks.flatMap Hunk.lines).map eol.received)
        next ∧
      next.map.paths = (cur.map.withFile path.text).paths ∧
      ∀ q k, next.map.touches q k = true ↔
        cur.map.touches q k = true ∨
          (q = path.text ∧ ∃ n : Nat, k = n ∧ ∃ h ∈ hunks, h.Adds n) := by
  have hstep : DiffCursor.step scope cur
      (DiffLine.ofChars (eol.received ("+++ b/".toList ++ path.text.toList)))
      = .ok { cur with map := cur.map.withFile path.text, file := some path.text } := by
    rw [ofChars_received_newPath]
    simp only [DiffCursor.step, String.ofList_toList, hadmits]
    rfl
  have hentered : path.text ∈ (cur.map.withFile path.text).paths :=
    ChangeMap.mem_paths_withFile.mpr (Or.inr rfl)
  obtain ⟨next, hreads, hnext⟩ := reads_hunks scope eol hunks
    { cur with map := cur.map.withFile path.text, file := some path.text } hgood rfl hentered
  refine ⟨next, Reads.cons hstep hreads, hnext.paths, fun q k => ?_⟩
  rw [hnext.touches, ChangeMap.touches_withFile]

/-- The content of a segment, read outside any file. -/
theorem reads_content {s : Segment} (hs : s.Readable) (cur : DiffCursor)
    (hfile : cur.file = none) :
    ∃ next, Reads scope cur (s.content.lines.map eol.received) next ∧
      MapGrown scope [s] cur.map next.map := by
  cases hnew : s.newPath? with
  | none =>
    -- the hunks of a deleted file are passed over with the rest
    have hplain : ∀ h ∈ s.content.hunks, h.Plain := fun h hh => (hs h hh).1
    have hreads := reads_passed scope eol hfile (contentLines_noPath hnew hplain)
    exact ⟨cur, hreads, MapGrown.of_no_path fun path h => absurd (hnew.symm.trans h) (by simp)⟩
  | some p =>
    obtain ⟨old, path, hunks, hc⟩ : ∃ old path hunks, s.content = .changed old path hunks := by
      unfold Segment.newPath? SegmentContent.newPath? at hnew
      split at hnew
      · next old path hunks hc => exact ⟨old, path, hunks, hc⟩
      · exact absurd hnew (by simp)
    have hp : p = path.text := by
      rw [Segment.newPath?, hc] at hnew
      exact (Option.some.inj hnew).symm
    have hhunks : s.hunks = hunks := by rw [Segment.hunks, hc]; rfl
    have hgood : ∀ h ∈ hunks, h.Plain ∧ h.Short := fun h hh => hs h (hhunks ▸ hh)
    have hold : DiffCursor.step scope cur
        (DiffLine.ofChars (eol.received ("--- ".toList ++ old.chars))) = .ok cur := by
      rw [eol.received_append (by decide), DiffLine.ofChars_oldPath]
      rfl
    subst hp
    rw [hc]
    cases hadmits : scope.admits path.text with
    | false =>
      have hreads := reads_outOfScope scope eol hfile hadmits fun h hh => (hgood h hh).1
      refine ⟨cur, Reads.cons hold hreads, MapGrown.of_no_path fun q hq => ?_⟩
      rw [hnew, Option.some.injEq] at hq
      rw [← hq, hadmits]
    | true =>
      obtain ⟨next, hreads, hpaths, htouches⟩ := reads_inScope scope eol cur hadmits hgood
      exact ⟨next, Reads.cons hold hreads,
        MapGrown.of_changed hadmits hnew hpaths (by rw [hhunks]; exact htouches)⟩

/-- The title of a segment ends what came before, and its header lines are passed over. -/
theorem reads_heading (s : Segment) (cur : DiffCursor) :
    Reads scope cur
      ((("diff --git".toList ++ s.title.chars) :: s.header.map (·.chars)).map eol.received)
      { cur with file := none } := by
  have htitle : DiffCursor.step scope cur
      (DiffLine.ofChars (eol.received ("diff --git".toList ++ s.title.chars)))
      = .ok { cur with file := none } := by
    rw [eol.received_append (by decide), DiffLine.ofChars_title]
    rfl
  -- from here on the scan is outside any file, whatever came before
  refine Reads.cons htitle (reads_idle rfl _ fun l hl => ?_)
  obtain ⟨chars, hchars, rfl⟩ := List.mem_map.mp hl
  obtain ⟨line, _, rfl⟩ := List.mem_map.mp hchars
  exact received_noPath eol line.noPath

/-- **A segment does the same wherever the scan stands.** -/
theorem reads_segment {s : Segment} (hs : s.Readable) (cur : DiffCursor) :
    ∃ next, Reads scope cur (s.lines.map eol.received) next ∧
      MapGrown scope [s] cur.map next.map := by
  obtain ⟨next, hreads, hnext⟩ := reads_content scope eol hs { cur with file := none } rfl
  refine ⟨next, ?_, hnext⟩
  rw [Segment.lines, ← List.cons_append, List.map_append]
  exact (reads_heading scope eol s cur).append hreads

theorem reads_segments :
    ∀ (segments : List Segment) (cur : DiffCursor), (∀ s ∈ segments, s.Readable) →
      ∃ next, Reads scope cur ((segments.flatMap Segment.lines).map eol.received) next ∧
        MapGrown scope segments cur.map next.map := by
  intro segments
  induction segments with
  | nil => intro cur _; exact ⟨cur, Reads.nil, MapGrown.nil⟩
  | cons s segments ih =>
    intro cur hreadable
    obtain ⟨mid, hreads, hmid⟩ :=
      reads_segment scope eol (hreadable s (List.mem_cons_self ..)) cur
    obtain ⟨next, hreads', hnext⟩ := ih mid fun t ht => hreadable t (List.mem_cons_of_mem _ ht)
    refine ⟨next, ?_, hmid.append hnext⟩
    rw [List.flatMap_cons, List.map_append]
    exact hreads.append hreads'

/-! ## The whole diff -/

/-- **The change map of a diff in git's layout is exact.** Reading succeeds. The
map holds the changed files in scope, each once, and the lines that it has for
one of them are those that some hunk of some segment on that file adds. -/
theorem ofDiff_diffText {segments : List Segment} (h : ∀ s ∈ segments, s.Readable) :
    ∃ m, ChangeMap.ofDiff scope (diffText eol segments) = .ok m ∧ m.paths.Nodup ∧
      (∀ path, path ∈ m.paths ↔
        scope.admits path = true ∧ ∃ s ∈ segments, s.newPath? = some path) ∧
      ∀ path lines, m.lines? path = some lines → ∀ k, k ∈ lines ↔
        ∃ s ∈ segments, s.newPath? = some path ∧ ∃ h ∈ s.hunks, ∃ n : Nat, k = n ∧ h.Adds n := by
  obtain ⟨last, hreads, hlast⟩ := reads_segments scope eol segments .start h
  -- behind the last line end there is one more line, an empty one
  have hend : Reads scope last [[]] last := Reads.cons rfl Reads.nil
  have hall : Reads scope .start (unixLines (diffText eol segments).toList) last := by
    rw [unixLines_diffText]
    exact hreads.append hend
  have hpaths : ∀ path, path ∈ last.map.paths ↔
      scope.admits path = true ∧ ∃ s ∈ segments, s.newPath? = some path := by
    intro path
    rw [hlast.paths]
    exact or_iff_right List.not_mem_nil
  refine ⟨last.map, hall.ofDiff_eq, hlast.nodup List.nodup_nil, hpaths, ?_⟩
  intro path lines hlines k
  have hin : scope.admits path = true :=
    ((hpaths path).mp (ChangeMap.lines?_isSome_iff.mp (by rw [hlines]; rfl))).1
  have hmem : last.map.touches path k = true ↔ k ∈ lines := by
    simp [ChangeMap.touches, hlines]
  rw [← hmem, hlast.touches]
  constructor
  · rintro (hstart | ⟨_, hadded⟩)
    · exact absurd hstart (by simp [DiffCursor.start, ChangeMap.touches_empty])
    · exact hadded
  · exact fun hadded => Or.inr ⟨hin, hadded⟩

end Segments

/-- One file changed in two segments, around a deleted one. The first hunk removes
a line that reads like an old path once its sign is in front. -/
def twiceChanged : List Segment :=
  let title : LineText := ⟨" a/src/a.ts b/src/a.ts".toList, by decide⟩
  let blank : LineText := ⟨[], List.not_mem_nil⟩
  let range (n : Nat) : HunkRange := ⟨.ofNat n, none⟩
  let hunk (n : Nat) (body : List BodyLine) : Hunk := ⟨range n, range n, blank, body⟩
  let path : LinePath := ⟨"src/a.ts", by decide, by decide⟩
  [ ⟨title, [], .changed title path
      [hunk 3 [.context blank, .added blank, .removed ⟨"-- old".toList, by decide⟩]]⟩,
    ⟨title, [], .deleted title [hunk 1 [.removed blank]]⟩,
    ⟨title, [], .changed title path [hunk 20 [.context blank, .added blank]]⟩ ]

theorem ofDiff_diffText_twiceChanged :
    (∀ s ∈ twiceChanged, s.Readable) ∧
      ∃ m lines, ChangeMap.ofDiff {} (diffText .crlf twiceChanged) = .ok m ∧
        m.lines? "src/a.ts" = some lines ∧ 4 ∈ lines ∧ 21 ∈ lines ∧ 3 ∉ lines := by
  have hreadable : ∀ s ∈ twiceChanged, s.Readable := by
    have hshort : ∀ n < 10 ^ 2, (DigitText.ofNat n).chars.length ≤ Numeral.maxDigits := by
      intro n hn
      have htwo : (Nat.toDigits 10 n).length ≤ 2 :=
        (Nat.length_toDigits_le_iff (by decide) (by decide)).mpr hn
      exact Nat.le_trans htwo (by decide)
    simp [twiceChanged, Segment.Readable, Segment.hunks, SegmentContent.hunks, Hunk.Plain,
      Hunk.Short, hshort]
  refine ⟨hreadable, ?_⟩
  obtain ⟨m, hm, -, hpaths, hlines⟩ := ofDiff_diffText {} .crlf hreadable
  have hin : "src/a.ts" ∈ m.paths := by
    rw [hpaths]
    exact ⟨by decide, by simp [twiceChanged, Segment.newPath?, SegmentContent.newPath?]⟩
  obtain ⟨lines, hl⟩ := Option.isSome_iff_exists.mp (ChangeMap.lines?_isSome_iff.mpr hin)
  have hmem : ∀ k, k ∈ lines ↔ k = 4 ∨ k = 21 := by
    intro k
    rw [hlines _ _ hl]
    simp [twiceChanged, Segment.newPath?, SegmentContent.newPath?, Segment.hunks,
      SegmentContent.hunks, Hunk.Adds, addedIn_cons, addedIn_nil, DigitText.value_ofNat,
      BodyLine.isInNewFile]
  refine ⟨m, lines, hm, hl, (hmem 4).mpr (Or.inl rfl), (hmem 21).mpr (Or.inr rfl), fun h => ?_⟩
  rcases (hmem 3).mp h with h | h
  · exact absurd h (by decide)
  · exact absurd h (by decide)

end PullReview
