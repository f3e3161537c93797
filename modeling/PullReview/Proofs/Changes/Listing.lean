import PullReview.Proofs.Changes.Exact
import PullReview.Proofs.Changes.Joining
import PullReview.Proofs.Text.Trim

/-!
# The diff and the listing of names

Git is asked for a change in two ways: for the diff, and for the names of the files in it.
The listing has each path as it is. In the diff a tabulator stands behind a path with a
space in it, and it is read as a part of the path; and a line of the file that reads like
a new path is taken for one.

So the two agree on which files were changed only as far as neither of these comes in the
way (`paths_agree_iff`).
-/

namespace PullReview

open Text

/-! ## Changed text files -/

/-- A path with no blank at either end. -/
structure ListedPath extends LinePath where
  nonempty : text ≠ ""
  trimmed : Text.trimmed text = text

/-- A file that is new or whose text changed. -/
structure TextChange where
  title : LineText
  header : List HeaderLine
  old : LineText
  path : ListedPath
  hunks : List Hunk

namespace TextChange

/-- Whether a tabulator is printed behind the path. -/
def IsTabbed (c : TextChange) : Prop := ' ' ∈ c.path.text.toList

instance (c : TextChange) : Decidable c.IsTabbed := inferInstanceAs (Decidable (' ' ∈ _))

/-- The path as it stands in the diff. -/
def printedPath (c : TextChange) : LinePath :=
  if c.IsTabbed then
    { text := c.path.text ++ "\t"
      noFeed := by
        rw [String.toList_append, List.mem_append, not_or]
        exact ⟨c.path.noFeed, by decide⟩
      noReturn := by
        rw [String.toList_append, List.mem_append, not_or]
        exact ⟨c.path.noReturn, by decide⟩ }
  else c.path.toLinePath

/-- The part of the diff on the file. -/
def segment (c : TextChange) : Segment where
  title := c.title
  header := c.header
  content := .changed c.old c.printedPath c.hunks

theorem printedPath_text (c : TextChange) :
    c.printedPath.text = if c.IsTabbed then c.path.text ++ "\t" else c.path.text := by
  unfold printedPath
  split <;> rfl

/-- Whether an added line of the file is received as the line of this new path. -/
def Steers (eol : LineEnd) (c : TextChange) (path : String) : Prop :=
  ∃ h ∈ c.hunks, ∃ text, BodyLine.added text ∈ h.body ∧
    eol.received text.chars = "++ b/".toList ++ path.toList

end TextChange

/-- The listing of the names of changed files. -/
def nameListing (eol : LineEnd) (changes : List TextChange) : String :=
  String.ofList (printed eol (changes.map (·.path.text.toList)))

/-- The files that are reviewed by that listing. -/
def listedFiles (scope : Scope) (eol : LineEnd) (changes : List TextChange) : List String :=
  scope.select ((unixLines (nameListing eol changes).toList).map String.ofList)

/-! ## The listing -/

theorem mem_select {scope : Scope} {names : List String} {path : String} :
    path ∈ scope.select names ↔
      (∃ name ∈ names, trimmed name = path) ∧ path ≠ "" ∧ scope.admits path = true := by
  simp [Scope.select]

/-- The listing has every path as it is. -/
theorem mem_listedFiles {scope : Scope} {eol : LineEnd} {changes : List TextChange}
    {path : String} :
    path ∈ listedFiles scope eol changes ↔
      scope.admits path = true ∧ ∃ c ∈ changes, c.path.text = path := by
  have hlines : (unixLines (nameListing eol changes).toList).map String.ofList
      = changes.map (·.path.text) ++ [""] := by
    unfold nameListing
    rw [String.toList_ofList, unixLines_printed, List.map_append, List.map_map, List.map_map]
    · congr 1
      refine List.map_congr_left fun c _ => ?_
      simp only [Function.comp_apply, eol.received_eq_self c.path.noReturn, String.ofList_toList]
    · simp only [List.forall_mem_map]
      exact fun c _ => c.path.noFeed
  unfold listedFiles
  rw [mem_select, hlines]
  constructor
  · rintro ⟨⟨name, hname, rfl⟩, hne, hadmits⟩
    rcases List.mem_append.mp hname with hin | hlast
    · obtain ⟨c, hc, rfl⟩ := List.mem_map.mp hin
      exact ⟨hadmits, c, hc, c.path.trimmed.symm⟩
    · rw [List.mem_singleton.mp hlast] at hne
      exact absurd rfl hne
  · rintro ⟨hadmits, c, hc, rfl⟩
    exact ⟨⟨_, List.mem_append_left _ (List.mem_map_of_mem hc), c.path.trimmed⟩,
      c.path.nonempty, hadmits⟩

/-! ## The lines of the diff that name a new path -/

/-- A line of a hunk that names a new path is an added one. -/
theorem received_hunkLine_iff {eol : LineEnd} {h : Hunk} {path : List Char} :
    (∃ l ∈ h.lines, eol.received l = "+++ b/".toList ++ path) ↔
      ∃ text, BodyLine.added text ∈ h.body ∧
        eol.received text.chars = "++ b/".toList ++ path := by
  have hadded (text : LineText) :
      eol.received (BodyLine.added text).chars = "+++ b/".toList ++ path ↔
        eol.received text.chars = "++ b/".toList ++ path := by
    have hplus : eol.received (BodyLine.added text).chars = '+' :: eol.received text.chars :=
      eol.received_cons (by decide) text.chars
    rw [hplus]
    exact ⟨fun he => (List.cons.inj he).2, fun he => congrArg (List.cons '+') he⟩
  constructor
  · rintro ⟨l, hl, he⟩
    -- what is received begins as the line does, and the mark of the line tells its kind
    have hprefix : "+++ b/".toList <+: l :=
      (he ▸ List.prefix_append _ path).trans (eol.received_prefix l)
    rcases List.mem_cons.mp hl with rfl | hbody
    · exact absurd (List.cons_prefix_cons.mp hprefix).1 (by decide)
    · obtain ⟨line, hline, rfl⟩ := List.mem_map.mp hbody
      cases line with
      | added text => exact ⟨text, hline, (hadded text).mp he⟩
      | context text => exact absurd (List.cons_prefix_cons.mp hprefix).1 (by decide)
      | removed text => exact absurd (List.cons_prefix_cons.mp hprefix).1 (by decide)
      | remark text => exact absurd (List.cons_prefix_cons.mp hprefix).1 (by decide)
  · rintro ⟨text, hin, he⟩
    exact ⟨_, List.mem_cons_of_mem _ (List.mem_map_of_mem hin), (hadded text).mpr he⟩

/-- Of the lines of a segment, that of its path names a new path, and so do the added lines
that read like one. -/
theorem TextChange.received_line_iff {eol : LineEnd} {c : TextChange} {path : String} :
    (∃ l ∈ c.segment.lines, eol.received l = "+++ b/".toList ++ path.toList) ↔
      c.printedPath.text = path ∨ c.Steers eol path := by
  have hpath : eol.received ("+++ b/".toList ++ c.printedPath.text.toList)
      = "+++ b/".toList ++ path.toList ↔ c.printedPath.text = path := by
    rw [eol.received_append (by decide), eol.received_eq_self c.printedPath.noReturn,
      List.append_cancel_left_eq, String.toList_inj]
  constructor
  · rintro ⟨l, hl, he⟩
    have hprefix : "+++ b/".toList <+: l :=
      (he ▸ List.prefix_append _ path.toList).trans (eol.received_prefix l)
    rcases List.mem_cons.mp hl with rfl | hl
    · exact absurd (List.cons_prefix_cons.mp hprefix).1 (by decide)
    rcases List.mem_append.mp hl with hheader | hcontent
    · obtain ⟨line, -, rfl⟩ := List.mem_map.mp hheader
      exact absurd hprefix line.noPath
    rcases List.mem_cons.mp hcontent with rfl | hcontent
    · exact absurd (List.cons_prefix_cons.mp hprefix).1 (by decide)
    rcases List.mem_cons.mp hcontent with rfl | hhunks
    · exact Or.inl (hpath.mp he)
    · obtain ⟨h, hh, hl⟩ := List.mem_flatMap.mp hhunks
      exact Or.inr ⟨h, hh, received_hunkLine_iff.mp ⟨l, hl, he⟩⟩
  · rintro (hprinted | ⟨h, hh, hsteers⟩)
    · refine ⟨_, List.mem_cons_of_mem _ (List.mem_append_right _ ?_), hpath.mpr hprinted⟩
      exact List.mem_cons_of_mem _ (List.mem_cons_self ..)
    · obtain ⟨l, hl, he⟩ := received_hunkLine_iff.mpr hsteers
      refine ⟨l, List.mem_cons_of_mem _ (List.mem_append_right _ ?_), he⟩
      exact List.mem_cons_of_mem _ (List.mem_cons_of_mem _ (List.mem_flatMap.mpr ⟨h, hh, hl⟩))

/-! ## Reading the diff -/

/-- Two hunk headers that look the same have new numbers of one length. -/
theorem length_start_of_hunkHeader_eq {old new old' new' : HunkRange}
    {heading heading' : List Char}
    (h : hunkHeader old new heading = hunkHeader old' new' heading') :
    new.start.chars.length = new'.start.chars.length := by
  have hkind := DiffLine.ofChars_hunkHeader old new heading
  rw [h, DiffLine.ofChars_hunkHeader] at hkind
  have hvalues := DiffLine.hunk.inj hkind
  rw [← new.start.length_digitValues, ← new'.start.length_digitValues, hvalues]

/-- Of the content of a changed file only its hunks have headers. -/
theorem TextChange.hasShortNumbers (eol : LineEnd) {c : TextChange}
    (hshort : ∀ h ∈ c.hunks, h.Short) :
    HasShortNumbers (c.segment.content.lines.map eol.received) := by
  intro old new heading hin
  obtain ⟨l, hl, he⟩ := List.mem_map.mp hin
  have hat : ['@'] <+: l := (he ▸ ⟨_, rfl⟩ : ['@'] <+: eol.received l).trans (eol.received_prefix l)
  rcases List.mem_cons.mp hl with rfl | hl
  · exact absurd (List.cons_prefix_cons.mp hat).1 (by decide)
  rcases List.mem_cons.mp hl with rfl | hl
  · exact absurd (List.cons_prefix_cons.mp hat).1 (by decide)
  obtain ⟨h, hh, hl⟩ := List.mem_flatMap.mp hl
  rcases List.mem_cons.mp hl with rfl | hbody
  · rw [Hunk.header, received_hunkHeader] at he
    exact length_start_of_hunkHeader_eq he ▸ hshort h hh
  · obtain ⟨line, -, rfl⟩ := List.mem_map.mp hbody
    cases line with
    | context | added | removed | remark =>
      exact absurd (List.cons_prefix_cons.mp hat).1 (by decide)

section Diff

variable (scope : Scope) (eol : LineEnd)

/-- Changed text files can be read, whatever their lines are like. -/
theorem exists_reads_changes :
    ∀ {changes : List TextChange}, (∀ c ∈ changes, ∀ h ∈ c.hunks, h.Short) →
      ∀ cur, ∃ next,
        Reads scope cur (((changes.map TextChange.segment).flatMap Segment.lines).map eol.received)
          next := by
  intro changes
  induction changes with
  | nil => intro _ cur; exact ⟨cur, Reads.nil⟩
  | cons c changes ih =>
    intro h cur
    obtain ⟨hc, hchanges⟩ := List.forall_mem_cons.mp h
    obtain ⟨mid, hmid⟩ := exists_reads scope (c.hasShortNumbers eol hc) { cur with file := none }
    obtain ⟨next, hnext⟩ := ih hchanges mid
    refine ⟨next, ?_⟩
    rw [List.map_cons, List.flatMap_cons, List.map_append, Segment.lines, ← List.cons_append,
      List.map_append]
    exact ((reads_heading scope eol c.segment cur).append hmid).append hnext

/-- **The files in the map of the diff**: those in scope that are printed as changed, and
those that an added line steers to. -/
theorem exists_ofDiff_changes {changes : List TextChange}
    (h : ∀ c ∈ changes, ∀ h ∈ c.hunks, h.Short) :
    ∃ m, ChangeMap.ofDiff scope (diffText eol (changes.map TextChange.segment)) = .ok m ∧
      ∀ path, path ∈ m.paths ↔ scope.admits path = true ∧
        ∃ c ∈ changes, c.printedPath.text = path ∨ c.Steers eol path := by
  obtain ⟨last, hreads⟩ := exists_reads_changes scope eol h .start
  have hall : Reads scope .start
      (unixLines (diffText eol (changes.map TextChange.segment)).toList) last := by
    rw [unixLines_diffText]
    exact hreads.append (Reads.cons rfl Reads.nil)
  have hmap := hall.ofDiff_eq
  refine ⟨last.map, hmap, fun path => ?_⟩
  rw [mem_paths_ofDiff_iff hmap, unixLines_diffText, List.mem_append]
  refine and_congr_right fun _ => ?_
  constructor
  · rintro (hin | hlast)
    · obtain ⟨l, hl, he⟩ := List.mem_map.mp hin
      obtain ⟨s, hs, hl⟩ := List.mem_flatMap.mp hl
      obtain ⟨c, hc, rfl⟩ := List.mem_map.mp hs
      exact ⟨c, hc, TextChange.received_line_iff.mp ⟨l, hl, he⟩⟩
    · exact absurd (List.mem_singleton.mp hlast) (by simp)
  · rintro ⟨c, hc, hnamed⟩
    obtain ⟨l, hl, he⟩ := TextChange.received_line_iff.mpr hnamed
    refine Or.inl (List.mem_map.mpr ⟨l, List.mem_flatMap.mpr ⟨c.segment, ?_, hl⟩, he⟩)
    exact List.mem_map_of_mem hc

end Diff

/-! ## Where the two agree -/

/-- No listed path ends in a tabulator. -/
theorem ListedPath.ne_append_tab (p : ListedPath) (q : String) : p.text ≠ q ++ "\t" := by
  intro he
  have htrim : trim (q.toList ++ ['\t']) = q.toList ++ ['\t'] := by
    have h := congrArg String.toList (he ▸ p.trimmed)
    rwa [Text.trimmed, String.toList_ofList, String.toList_append] at h
  rw [trim_append_blanks (areBlank_singleton (by decide))] at htrim
  have hshort := length_trim_le q.toList
  rw [htrim, List.length_append, List.length_singleton] at hshort
  omega

/-- **The diff and the listing name the same files** exactly if both of this holds. No path
with a space is in scope, be it with or without the tabulator, unless without it some added
line steers there; and the added lines steer to no files in scope but changed ones. -/
theorem paths_agree_iff (scope : Scope) (eol eol' : LineEnd) {changes : List TextChange}
    (h : ∀ c ∈ changes, ∀ h ∈ c.hunks, h.Short) :
    ∃ m, ChangeMap.ofDiff scope (diffText eol (changes.map TextChange.segment)) = .ok m ∧
      ((∀ path, path ∈ m.paths ↔ path ∈ listedFiles scope eol' changes) ↔
        (∀ c ∈ changes, c.IsTabbed → scope.admits (c.path.text ++ "\t") = false ∧
          (scope.admits c.path.text = true → ∃ d ∈ changes, d.Steers eol c.path.text)) ∧
        ∀ c ∈ changes, ∀ path, c.Steers eol path → scope.admits path = true →
          ∃ d ∈ changes, d.path.text = path) := by
  obtain ⟨m, hm, hpaths⟩ := exists_ofDiff_changes scope eol h
  refine ⟨m, hm, ?_⟩
  simp only [hpaths, mem_listedFiles]
  constructor
  · intro hagree
    refine ⟨fun c hc htab => ⟨?_, fun hadmits => ?_⟩, fun c hc path hsteers hadmits => ?_⟩
    · -- the listing never has a path with the tabulator
      rw [Bool.eq_false_iff]
      intro hadmits
      have hprinted : c.printedPath.text = c.path.text ++ "\t" := by
        rw [c.printedPath_text, if_pos htab]
      obtain ⟨-, d, -, hd⟩ := (hagree _).mp ⟨hadmits, c, hc, Or.inl hprinted⟩
      exact d.path.ne_append_tab c.path.text hd
    · -- the diff never prints it without
      obtain ⟨-, d, hd, hnamed⟩ := (hagree c.path.text).mpr ⟨hadmits, c, hc, rfl⟩
      refine ⟨d, hd, hnamed.resolve_left fun hprinted => ?_⟩
      rw [d.printedPath_text] at hprinted
      split at hprinted
      · exact c.path.ne_append_tab d.path.text hprinted.symm
      · next hspaceless => exact hspaceless (by rw [TextChange.IsTabbed, hprinted]; exact htab)
    · exact ((hagree path).mp ⟨hadmits, c, hc, Or.inr hsteers⟩).2
  · rintro ⟨htabbed, hsteered⟩ path
    refine and_congr_right fun hadmits => ?_
    constructor
    · rintro ⟨c, hc, hprinted | hsteers⟩
      · rw [c.printedPath_text] at hprinted
        split at hprinted
        · next htab =>
          rw [← hprinted, (htabbed c hc htab).1] at hadmits
          exact absurd hadmits (by simp)
        · exact ⟨c, hc, hprinted⟩
      · exact hsteered c hc path hsteers hadmits
    · rintro ⟨c, hc, rfl⟩
      by_cases htab : c.IsTabbed
      · obtain ⟨d, hd, hsteers⟩ := (htabbed c hc htab).2 hadmits
        exact ⟨d, hd, Or.inr hsteers⟩
      · exact ⟨c, hc, Or.inl (by rw [c.printedPath_text, if_neg htab])⟩

/-- A file with one line put in place of another. -/
def lineReplaced (path : ListedPath) : TextChange where
  title := ⟨" a/x b/x".toList, by decide⟩
  header := []
  old := ⟨"a/x".toList, by decide⟩
  path := path
  hunks := [{
    old := ⟨.ofNat 1, none⟩
    new := ⟨.ofNat 1, none⟩
    heading := .empty
    body := [.removed ⟨"x".toList, by decide⟩, .added ⟨"y".toList, by decide⟩] }]

/-- A page of the site, with a space in its name. -/
def spacedPage : TextChange :=
  lineReplaced ⟨⟨"web/my page.ts", by decide, by decide⟩, by decide, by decide⟩

/-- A page of the site and a text beside it, with a space in the name of the text only. -/
def pageAndNotes : List TextChange := [
  lineReplaced ⟨⟨"web/page.ts", by decide, by decide⟩, by decide, by decide⟩,
  lineReplaced ⟨⟨"web/my notes.md", by decide, by decide⟩, by decide, by decide⟩]

theorem short_lineReplaced (path : ListedPath) : ∀ h ∈ (lineReplaced path).hunks, h.Short := by
  intro h hh
  obtain rfl := List.mem_singleton.mp hh
  show (DigitText.ofNat 1).chars.length ≤ Numeral.maxDigits
  decide

theorem not_steers_lineReplaced (path : ListedPath) (steered : String) :
    ¬ (lineReplaced path).Steers .lf steered := by
  rintro ⟨h, hh, text, htext, he⟩
  obtain rfl := List.mem_singleton.mp hh
  obtain rfl : text = ⟨"y".toList, by decide⟩ := by simpa using htext
  have hy : "y".toList = "++ b/".toList ++ steered.toList := he
  exact absurd (List.cons.inj hy).1 (by decide)

theorem paths_agree_iff_pageAndNotes :
    ∃ m, ChangeMap.ofDiff {} (diffText .lf (pageAndNotes.map TextChange.segment)) = .ok m ∧
      ∀ path, path ∈ m.paths ↔ path ∈ listedFiles {} .crlf pageAndNotes := by
  have hreplaced : ∀ c ∈ pageAndNotes, ∃ path, c = lineReplaced path := by
    simp only [pageAndNotes, List.forall_mem_cons]
    exact ⟨⟨_, rfl⟩, ⟨_, rfl⟩, List.forall_mem_nil _⟩
  have hshort : ∀ c ∈ pageAndNotes, ∀ h ∈ c.hunks, h.Short := by
    intro c hc
    obtain ⟨path, rfl⟩ := hreplaced c hc
    exact short_lineReplaced path
  have hsteers : ∀ c ∈ pageAndNotes, ∀ path, ¬ c.Steers .lf path := by
    intro c hc
    obtain ⟨path, rfl⟩ := hreplaced c hc
    exact not_steers_lineReplaced path
  have htabbed : ∀ c ∈ pageAndNotes, c.IsTabbed →
      Scope.admits {} (c.path.text ++ "\t") = false ∧ Scope.admits {} c.path.text = false := by
    simp only [pageAndNotes, List.forall_mem_cons]
    exact ⟨fun htab => absurd htab (by decide), fun _ => by decide, List.forall_mem_nil _⟩
  obtain ⟨m, hm, hagree⟩ := paths_agree_iff {} .lf .crlf hshort
  refine ⟨m, hm, hagree.mpr ⟨fun c hc htab => ?_, fun c hc path h => absurd h (hsteers c hc path)⟩⟩
  obtain ⟨hwith, hwithout⟩ := htabbed c hc htab
  exact ⟨hwith, fun hadmits => absurd (hwithout.symm.trans hadmits) (by simp)⟩

/-- The diff hides a page with a space in its name, which the listing has. -/
theorem paths_spacedPage :
    ChangeMap.ofDiff {} (diffText .lf [spacedPage.segment]) = .ok .empty ∧
      listedFiles {} .lf [spacedPage] = ["web/my page.ts"] := by
  decide

end PullReview
