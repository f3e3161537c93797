import PullReview.Proofs.Changes.Reading

/-!
# Segments of a diff are independent

A text may stand behind any other one in a diff, if it begins with a title line and each
of its added lines has a hunk header between itself and the closest line of a new path.
The title ends the file of the text in front, whatever that text was. The number of the
next line is not ended by it; but until a hunk header has set it anew, no added line
is read with it.

The scan over such a text is followed from two cursors side by side, the one that the
text in front has left and the one at the start of all (`Beside`): the files are the
same, and the numbers are the same as long as the lines read so far are `Headed`.

> `ofDiff_joined`: the map of two texts is the union of their maps, and the map of a list
> of such texts does not depend on their order.
-/

namespace PullReview

open Text

/-! ## Lines of a text -/

/-- The line of a new path. -/
def IsPathLine (line : List Char) : Prop := "+++ b/".toList <+: line

/-- A line that begins with a plus sign, and not like the line of a new path. -/
def IsAddedLine (line : List Char) : Prop := "+".toList <+: line ∧ ¬ IsPathLine line

def IsHunkLine (line : List Char) : Prop := ∃ old new heading, line = hunkHeader old new heading

/-- A hunk header stands behind the last line of a new path, if there is one. -/
def Headed (before : List (List Char)) : Prop :=
  ∀ front path back, before = front ++ path :: back → IsPathLine path →
    (∀ line ∈ back, ¬ IsPathLine line) → ∃ line ∈ back, IsHunkLine line

/-- Lines that may stand behind any other ones. -/
structure IsSelfContained (lines : List (List Char)) : Prop where
  title : ∃ text rest, lines = ("diff --git".toList ++ text) :: rest
  headed : ∀ before line after, lines = before ++ line :: after → IsAddedLine line → Headed before

/-- The first new line numbers of hunks have no more digits than are read. -/
def HasShortNumbers (lines : List (List Char)) : Prop :=
  ∀ old new heading, hunkHeader old new heading ∈ lines →
    new.start.chars.length ≤ Numeral.maxDigits

theorem IsHunkLine.not_isPathLine {line : List Char} (h : IsHunkLine line) : ¬ IsPathLine line := by
  obtain ⟨old, new, heading, rfl⟩ := h
  exact fun hp => absurd (List.cons_prefix_cons.mp hp).1 (by decide)

theorem not_headed_concat {before : List (List Char)} {line : List Char} (h : IsPathLine line) :
    ¬ Headed (before ++ [line]) := by
  intro hheaded
  obtain ⟨l, hl, _⟩ := hheaded before line [] rfl h fun l hl => absurd hl List.not_mem_nil
  exact absurd hl List.not_mem_nil

/-- Behind a hunk header all is headed. -/
theorem headed_concat {before : List (List Char)} {line : List Char} (h : IsHunkLine line) :
    Headed (before ++ [line]) := by
  intro front path back hsplit hpath _
  have hlast : (path :: back).getLast? = some line := by
    have hends := congrArg List.getLast? hsplit
    rw [List.getLast?_concat, List.getLast?_append_cons] at hends
    exact hends.symm
  rcases List.mem_cons.mp (List.mem_of_getLast? hlast) with rfl | hin
  · exact absurd hpath h.not_isPathLine
  · exact ⟨line, hin, h⟩

/-- A line that is no hunk header brings none. -/
theorem headed_of_concat {before : List (List Char)} {line : List Char} (hhunk : ¬ IsHunkLine line)
    (h : Headed (before ++ [line])) : Headed before := by
  have hpath : ¬ IsPathLine line := fun hp => not_headed_concat hp h
  rintro front path back rfl hp hback
  have hmore : ∀ l ∈ back ++ [line], ¬ IsPathLine l := by
    intro l hl
    rcases List.mem_append.mp hl with hl | hl
    · exact hback l hl
    · rw [List.mem_singleton.mp hl]
      exact hpath
  obtain ⟨l, hl, hheader⟩ := h front path (back ++ [line]) (by simp) hp hmore
  rcases List.mem_append.mp hl with hl | hl
  · exact ⟨l, hl, hheader⟩
  · rw [List.mem_singleton.mp hl] at hheader
    exact absurd hheader hhunk

/-! ## Maps together -/

/-- A map that holds what some maps hold together. -/
structure IsUnionOf (maps : List ChangeMap) (u : ChangeMap) : Prop where
  paths : ∀ path, path ∈ u.paths ↔ ∃ m ∈ maps, path ∈ m.paths
  touches : ∀ path line, u.touches path line = true ↔ ∃ m ∈ maps, m.touches path line = true

/-- Maps with the same files and the same lines of each. -/
structure SameMap (m m' : ChangeMap) : Prop where
  paths : ∀ path, path ∈ m.paths ↔ path ∈ m'.paths
  touches : ∀ path line, m.touches path line = m'.touches path line

/-! ## Two cursors side by side -/

/-- Behind the lines `before` of a text, `cur` is a cursor that began with the map `m`,
and `own` is the one that began with nothing. -/
structure Beside (m : ChangeMap) (before : List (List Char)) (cur own : DiffCursor) : Prop where
  file : cur.file = own.file
  union : IsUnionOf [m, own.map] cur.map
  entered : ∀ path, own.file = some path → path ∈ own.map.paths
  line : ∀ path, own.file = some path → Headed before → cur.line = own.line

section Scan

variable {scope : Scope} {m : ChangeMap} {before : List (List Char)} {cur own next : DiffCursor}
  {line : List Char}

theorem IsUnionOf.withFile {u v : ChangeMap} (h : IsUnionOf [m, v] u) (path : String) :
    IsUnionOf [m, v.withFile path] (u.withFile path) where
  paths := by
    intro q
    have hq := h.paths q
    simp only [List.mem_cons, List.not_mem_nil, or_false, exists_eq_or_imp, exists_eq_left] at hq ⊢
    rw [ChangeMap.mem_paths_withFile, ChangeMap.mem_paths_withFile, hq, or_assoc]
  touches := by
    intro q k
    have hq := h.touches q k
    simp only [List.mem_cons, List.not_mem_nil, or_false, exists_eq_or_imp, exists_eq_left] at hq ⊢
    rw [ChangeMap.touches_withFile, ChangeMap.touches_withFile, hq]

theorem IsUnionOf.addLine {u v : ChangeMap} (h : IsUnionOf [m, v] u) {path : String}
    (hpath : path ∈ v.paths) (line : Int) :
    IsUnionOf [m, v.addLine path line] (u.addLine path line) where
  paths := by
    intro q
    have hq := h.paths q
    simp only [List.mem_cons, List.not_mem_nil, or_false, exists_eq_or_imp, exists_eq_left] at hq ⊢
    rw [ChangeMap.paths_addLine, ChangeMap.paths_addLine, hq]
  touches := by
    intro q k
    have hin : path ∈ u.paths := (h.paths path).mpr ⟨v, by simp, hpath⟩
    have hq := h.touches q k
    simp only [List.mem_cons, List.not_mem_nil, or_false, exists_eq_or_imp, exists_eq_left] at hq ⊢
    rw [ChangeMap.touches_addLine hin, ChangeMap.touches_addLine hpath, hq, or_assoc]

/-- Outside a file nothing is asked of the numbers. -/
theorem beside_of_noFile (hcur : cur.file = none) (hown : own.file = none)
    (h : IsUnionOf [m, own.map] cur.map) : Beside m before cur own where
  file := hcur.trans hown.symm
  union := h
  entered := fun path hpath => absurd (hown.symm.trans hpath) (by simp)
  line := fun path hpath => absurd (hown.symm.trans hpath) (by simp)

/-- The line of a new path opens its file for both, and the numbers are out of step. -/
theorem Beside.step_newFile (h : Beside m before cur own) {path : List Char}
    (hkind : DiffLine.ofChars line = .newFile path)
    (hstep : DiffCursor.step scope own (.newFile path) = .ok next) :
    ∃ next', DiffCursor.step scope cur (.newFile path) = .ok next' ∧
      Beside m (before ++ [line]) next' next := by
  have hpath : IsPathLine line := ⟨path, (DiffLine.ofChars_newFile_iff.mp hkind).symm⟩
  simp only [DiffCursor.step] at hstep ⊢
  split at hstep
  · next hadmits =>
    obtain rfl := Except.ok.inj hstep
    rw [if_pos hadmits]
    refine ⟨_, rfl, rfl, h.union.withFile _, ?_, fun _ _ hheaded => ?_⟩
    · rintro q hq
      obtain rfl := Option.some.inj hq
      exact ChangeMap.mem_paths_withFile.mpr (Or.inr rfl)
    · exact absurd hheaded (not_headed_concat hpath)
  · next hadmits =>
    obtain rfl := Except.ok.inj hstep
    rw [if_neg hadmits]
    exact ⟨_, rfl, beside_of_noFile rfl rfl h.union⟩

/-- Inside a file every other line does to both cursors the same. -/
theorem Beside.step_inFile (h : Beside m before cur own) {path : String}
    (hfile : own.file = some path) (hadded : IsAddedLine line → Headed before)
    (hnew : ∀ path, DiffLine.ofChars line ≠ .newFile path)
    (hstep : DiffCursor.step scope own (DiffLine.ofChars line) = .ok next) :
    ∃ next', DiffCursor.step scope cur (DiffLine.ofChars line) = .ok next' ∧
      Beside m (before ++ [line]) next' next := by
  have hcur : cur.file = some path := h.file.trans hfile
  -- a line that is no hunk header leaves the lines headed only if they were before
  have hback : (∀ ds, DiffLine.ofChars line ≠ .hunk ds) → Headed (before ++ [line]) →
      Headed before := by
    intro hne
    refine headed_of_concat ?_
    rintro ⟨old, new, heading, rfl⟩
    exact hne _ (DiffLine.ofChars_hunkHeader old new heading)
  cases hkind : DiffLine.ofChars line with
  | newFile path => exact absurd hkind (hnew path)
  | oldFile | other =>
    rw [hkind] at hstep
    obtain rfl := Except.ok.inj hstep
    exact ⟨cur, rfl, h.file, h.union, h.entered, fun q hq hheaded =>
      h.line q hq (hback (by simp [hkind]) hheaded)⟩
  | boundary =>
    rw [hkind] at hstep
    obtain rfl := Except.ok.inj hstep
    exact ⟨{ cur with file := none }, rfl, beside_of_noFile rfl rfl h.union⟩
  | hunk ds =>
    rw [hkind] at hstep
    simp only [DiffCursor.step, hfile] at hstep
    simp only [DiffCursor.step, hcur]
    cases hnat : Numeral.natOf ds with
    | error fault =>
      rw [hnat] at hstep
      have hfault : Except.error fault = Except.ok next := hstep
      exact absurd hfault (by simp)
    | ok n =>
      rw [hnat] at hstep
      obtain rfl := Except.ok.inj hstep
      exact ⟨_, rfl, rfl, h.union, fun q hq => h.entered q (hfile.trans hq), fun _ _ _ => rfl⟩
  | added =>
    obtain ⟨⟨text, hsign⟩, hpath⟩ := DiffLine.exists_of_ofChars_added hkind
    have hline := h.line path hfile (hadded ⟨⟨text, hsign.symm⟩, hpath⟩)
    rw [hkind] at hstep
    simp only [DiffCursor.step, hfile] at hstep
    simp only [DiffCursor.step, hcur, hline]
    obtain rfl := Except.ok.inj hstep
    refine ⟨_, rfl, rfl, h.union.addLine (h.entered path hfile) _, ?_, fun _ _ _ => rfl⟩
    intro q hq
    rw [ChangeMap.paths_addLine]
    exact h.entered q (hfile.trans hq)
  | context =>
    rw [hkind] at hstep
    simp only [DiffCursor.step, hfile] at hstep
    simp only [DiffCursor.step, hcur]
    obtain rfl := Except.ok.inj hstep
    refine ⟨_, rfl, rfl, h.union, fun q hq => h.entered q (hfile.trans hq), ?_⟩
    intro q hq hheaded
    exact congrArg (· + 1) (h.line q (hfile.trans hq) (hback (by simp [hkind]) hheaded))

/-- **A line does to both cursors the same**, as long as none is added unheaded. -/
theorem Beside.step (h : Beside m before cur own) (hadded : IsAddedLine line → Headed before)
    (hstep : DiffCursor.step scope own (DiffLine.ofChars line) = .ok next) :
    ∃ next', DiffCursor.step scope cur (DiffLine.ofChars line) = .ok next' ∧
      Beside m (before ++ [line]) next' next := by
  by_cases hnew : ∃ path, DiffLine.ofChars line = .newFile path
  · obtain ⟨path, hkind⟩ := hnew
    rw [hkind] at hstep ⊢
    exact h.step_newFile hkind hstep
  · have hnew : ∀ path, DiffLine.ofChars line ≠ .newFile path := fun path he => hnew ⟨path, he⟩
    cases hfile : own.file with
    | some path => exact h.step_inFile hfile hadded hnew hstep
    | none =>
      have hcur : cur.file = none := h.file.trans hfile
      rw [step_idle hfile hnew] at hstep
      obtain rfl := Except.ok.inj hstep
      exact ⟨cur, step_idle hcur hnew, beside_of_noFile hcur hfile h.union⟩

/-- Over all lines the cursors stay side by side. -/
theorem Beside.reads :
    ∀ (lines before : List (List Char)) (cur own : DiffCursor), Beside m before cur own →
      (∀ front line back, lines = front ++ line :: back → IsAddedLine line →
        Headed (before ++ front)) →
      Reads scope own lines next →
      ∃ next', Reads scope cur lines next' ∧ Beside m (before ++ lines) next' next := by
  intro lines
  induction lines with
  | nil =>
    intro before cur own h _ hreads
    obtain rfl := Except.ok.inj hreads
    exact ⟨cur, Reads.nil, by rwa [List.append_nil]⟩
  | cons line lines ih =>
    intro before cur own h hadded hreads
    obtain ⟨mid, hstep, hrest⟩ := hreads.exists_of_cons
    have hfirst : IsAddedLine line → Headed before := fun hl => by
      simpa using hadded [] line lines rfl hl
    obtain ⟨mid', hstep', hmid⟩ := h.step hfirst hstep
    have hmore : ∀ front l back, lines = front ++ l :: back → IsAddedLine l →
        Headed (before ++ [line] ++ front) := by
      rintro front l back rfl hl
      simpa using hadded (line :: front) l back rfl hl
    obtain ⟨next', hreads', hnext⟩ := ih _ mid' mid hmid hmore hrest
    exact ⟨next', Reads.cons hstep' hreads', by simpa using hnext⟩

end Scan

/-! ## Texts in a row -/

section Texts

variable (scope : Scope)

/-- A text reads to the same lines wherever the scan stands: its title ends what came
before. -/
theorem IsSelfContained.reads {lines : List (List Char)} (h : IsSelfContained lines)
    {own : DiffCursor} (hreads : Reads scope .start lines own) (cur : DiffCursor) :
    ∃ next, Reads scope cur lines next ∧ IsUnionOf [cur.map, own.map] next.map := by
  obtain ⟨text, rest, rfl⟩ := h.title
  obtain ⟨mid, hstep, hrest⟩ := hreads.exists_of_cons
  rw [DiffLine.ofChars_title] at hstep
  obtain rfl := Except.ok.inj hstep
  have hbegin : Beside cur.map ["diff --git".toList ++ text] { cur with file := none } .start := by
    refine beside_of_noFile rfl rfl ⟨fun path => ?_, fun path line => ?_⟩
    · simp [DiffCursor.start, ChangeMap.empty, ChangeMap.paths]
    · simp [DiffCursor.start, ChangeMap.touches_empty]
  obtain ⟨next, hnext, hbeside⟩ := Beside.reads rest _ _ _ hbegin
    (fun front line back hsplit hadded => h.headed _ line back (by rw [hsplit]; rfl) hadded) hrest
  exact ⟨next, Reads.cons (by rw [DiffLine.ofChars_title]; rfl) hnext, hbeside.union⟩

/-- A line fails to be read for its number alone. -/
theorem exists_step {line : List Char}
    (h : ∀ old new heading, line = hunkHeader old new heading →
      new.start.chars.length ≤ Numeral.maxDigits) (cur : DiffCursor) :
    ∃ next, DiffCursor.step scope cur (DiffLine.ofChars line) = .ok next := by
  cases hkind : DiffLine.ofChars line with
  | newFile path =>
    dsimp only [DiffCursor.step]
    split
    · exact ⟨_, rfl⟩
    · exact ⟨_, rfl⟩
  | oldFile | boundary | other => exact ⟨_, rfl⟩
  | added | context =>
    dsimp only [DiffCursor.step]
    split
    · exact ⟨_, rfl⟩
    · exact ⟨_, rfl⟩
  | hunk ds =>
    obtain ⟨old, new, heading, hline, rfl⟩ := DiffLine.exists_of_ofChars_hunk hkind
    dsimp only [DiffCursor.step]
    split
    · exact ⟨_, rfl⟩
    · rw [new.start.natOf_eq (h old new heading hline)]
      exact ⟨_, rfl⟩

/-- Lines with short numbers can be read. -/
theorem exists_reads :
    ∀ {lines : List (List Char)}, HasShortNumbers lines →
      ∀ cur, ∃ next, Reads scope cur lines next := by
  intro lines
  induction lines with
  | nil => intro _ cur; exact ⟨cur, Reads.nil⟩
  | cons line lines ih =>
    intro h cur
    obtain ⟨mid, hmid⟩ := exists_step scope (fun old new heading hline =>
      h old new heading (hline ▸ List.mem_cons_self ..)) cur
    obtain ⟨next, hnext⟩ := ih (fun old new heading hin =>
      h old new heading (List.mem_cons_of_mem _ hin)) mid
    exact ⟨next, Reads.cons hmid hnext⟩

/-- The map of a text on its own. -/
def ownMap (text : String) : ChangeMap := (ChangeMap.ofDiff scope text).toOption.getD .empty

/-- A text that may stand behind any other one, and in front of any other one. -/
structure IsSegmentText (text : String) : Prop where
  noReturn : text.toList.getLast? ≠ some '\r'
  selfContained : IsSelfContained (unixLines text.toList)
  short : HasShortNumbers (unixLines text.toList)

theorem IsUnionOf.trans {m m' mid u : ChangeMap} {maps : List ChangeMap}
    (h : IsUnionOf [m, m'] mid) (h' : IsUnionOf (mid :: maps) u) :
    IsUnionOf (m :: m' :: maps) u where
  paths := by
    intro path
    have hpath := h.paths path
    simp only [List.mem_cons, List.not_mem_nil, or_false, exists_eq_or_imp, exists_eq_left] at hpath
    rw [h'.paths]
    simp only [List.mem_cons, exists_eq_or_imp, hpath, or_assoc]
  touches := by
    intro path line
    have hline := h.touches path line
    simp only [List.mem_cons, List.not_mem_nil, or_false, exists_eq_or_imp, exists_eq_left] at hline
    rw [h'.touches]
    simp only [List.mem_cons, exists_eq_or_imp, hline, or_assoc]

/-- **Texts in a row touch what each of them touches on its own.** -/
theorem reads_texts :
    ∀ (texts : List String), (∀ t ∈ texts, IsSegmentText t) → ∀ cur, ∃ next,
      Reads scope cur (texts.flatMap fun t => unixLines t.toList) next ∧
        IsUnionOf (cur.map :: texts.map (ownMap scope)) next.map := by
  intro texts
  induction texts with
  | nil =>
    intro _ cur
    exact ⟨cur, Reads.nil, ⟨by simp, by simp⟩⟩
  | cons t texts ih =>
    intro h cur
    obtain ⟨ht, hrest⟩ := List.forall_mem_cons.mp h
    obtain ⟨own, hown⟩ := exists_reads scope ht.short .start
    have hmap : ownMap scope t = own.map := by
      rw [ownMap, hown.ofDiff_eq]
      rfl
    obtain ⟨mid, hreads, hmid⟩ := ht.selfContained.reads scope hown cur
    obtain ⟨next, hreads', hnext⟩ := ih hrest mid
    refine ⟨next, hreads.append hreads', ?_⟩
    rw [List.map_cons, hmap]
    exact hmid.trans hnext

theorem exists_ofDiff_joined {texts : List String} (h : ∀ t ∈ texts, IsSegmentText t) :
    ∃ u, ChangeMap.ofDiff scope (join "\n" texts) = .ok u ∧
      IsUnionOf (texts.map (ownMap scope)) u := by
  cases texts with
  | nil => exact ⟨.empty, rfl, ⟨by simp [ChangeMap.empty, ChangeMap.paths], by
      simp [ChangeMap.touches_empty]⟩⟩
  | cons t texts =>
    obtain ⟨next, hreads, hnext⟩ := reads_texts scope (t :: texts) h .start
    have hlines := unixLines_joined (t :: texts) (by simp) fun u hu => (h u hu).noReturn
    rw [← hlines] at hreads
    refine ⟨next.map, hreads.ofDiff_eq, fun path => ?_, fun path line => ?_⟩
    · rw [hnext.paths]
      simp [DiffCursor.start, ChangeMap.empty, ChangeMap.paths]
    · rw [hnext.touches]
      simp [DiffCursor.start, ChangeMap.touches_empty]

/-- **Segments are independent.** For any text in front that ends in no carriage return, and
any text behind that begins with a title line and whose added lines are headed, the map of
the two is the union of their maps. And the map of a list of such texts does not depend on
their order. (Numbers in headers are those that are read: of 4300 digits at most.) -/
theorem ofDiff_joined :
    (∀ front back : String, front.toList.getLast? ≠ some '\r' →
      HasShortNumbers (unixLines front.toList) → HasShortNumbers (unixLines back.toList) →
      IsSelfContained (unixLines back.toList) →
      ∃ m m' u, ChangeMap.ofDiff scope front = .ok m ∧ ChangeMap.ofDiff scope back = .ok m' ∧
        ChangeMap.ofDiff scope (front ++ "\n" ++ back) = .ok u ∧ IsUnionOf [m, m'] u) ∧
    ∀ texts texts' : List String, texts.Perm texts' → (∀ t ∈ texts, IsSegmentText t) →
      ∃ u u', ChangeMap.ofDiff scope (join "\n" texts) = .ok u ∧
        ChangeMap.ofDiff scope (join "\n" texts') = .ok u' ∧ SameMap u u' := by
  constructor
  · intro front back hreturn hfront hback hself
    obtain ⟨mid, hmid⟩ := exists_reads scope hfront .start
    obtain ⟨own, hown⟩ := exists_reads scope hback .start
    obtain ⟨next, hnext, hunion⟩ := hself.reads scope hown mid
    have hlines : unixLines (front ++ "\n" ++ back).toList
        = unixLines front.toList ++ unixLines back.toList := by
      rw [← unixLines_join _ _ hreturn, String.toList_append, String.toList_append,
        List.append_assoc]
      rfl
    have hall : Reads scope .start (unixLines (front ++ "\n" ++ back).toList) next := by
      rw [hlines]
      exact hmid.append hnext
    exact ⟨_, _, _, hmid.ofDiff_eq, hown.ofDiff_eq, hall.ofDiff_eq, hunion⟩
  · intro texts texts' hperm h
    obtain ⟨u, hu, hunion⟩ := exists_ofDiff_joined scope h
    obtain ⟨u', hu', hunion'⟩ := exists_ofDiff_joined scope fun t ht => h t (hperm.mem_iff.mpr ht)
    have hmaps : ∀ m, m ∈ texts.map (ownMap scope) ↔ m ∈ texts'.map (ownMap scope) :=
      fun m => (hperm.map (ownMap scope)).mem_iff
    refine ⟨u, u', hu, hu', fun path => ?_, fun path line => ?_⟩
    · rw [hunion.paths, hunion'.paths]
      exact exists_congr fun m => and_congr_left' (hmaps m)
    · rw [Bool.eq_iff_iff, hunion.touches, hunion'.touches]
      exact exists_congr fun m => and_congr_left' (hmaps m)

end Texts

/-! Texts of four lines that add line 4 of some file, behind a text that leaves a file open
at line 1. -/

def openText : String := "+++ b/c.ts\n@@ -1 +1 @@"

def fourLines (file : String) : String :=
  "diff --git a/x b/x\n+++ b/" ++ file ++ "\n@@ -3,0 +4 @@\n+let x"

theorem hasShortNumbers_of_length {lines : List (List Char)}
    (h : ∀ line ∈ lines, line.length ≤ Numeral.maxDigits) : HasShortNumbers lines := by
  intro old new heading hin
  have hlength := h _ hin
  simp only [hunkHeader, List.length_append] at hlength
  have hstart : new.start.chars.length ≤ new.chars.length := by
    unfold HunkRange.chars
    split
    · rw [List.length_append]; omega
    · exact Nat.le_refl _
  omega

theorem isSelfContained_fourLines {file : List Char} :
    IsSelfContained ["diff --git a/x b/x".toList, "+++ b/".toList ++ file,
      "@@ -3,0 +4 @@".toList, "+let x".toList] where
  title := ⟨" a/x b/x".toList, _, rfl⟩
  headed := by
    have hheader : IsHunkLine "@@ -3,0 +4 @@".toList := by
      obtain ⟨old, new, heading, h, _⟩ := DiffLine.exists_of_ofChars_hunk
        (show DiffLine.ofChars "@@ -3,0 +4 @@".toList = .hunk [4] by decide)
      exact ⟨old, new, heading, h⟩
    -- of the four lines only the last one is an added line
    rintro (_ | ⟨l₁, _ | ⟨l₂, _ | ⟨l₃, _ | ⟨l₄, before⟩⟩⟩⟩) line after hsplit hadded
    · obtain ⟨rfl, -⟩ := List.cons.inj hsplit
      exact absurd hadded.1 (by decide)
    · obtain ⟨-, hsplit⟩ := List.cons.inj hsplit
      obtain ⟨rfl, -⟩ := List.cons.inj hsplit
      exact absurd (List.prefix_append _ _) hadded.2
    · obtain ⟨-, hsplit⟩ := List.cons.inj hsplit
      obtain ⟨-, hsplit⟩ := List.cons.inj hsplit
      obtain ⟨rfl, -⟩ := List.cons.inj hsplit
      exact absurd hadded.1 (by decide)
    · obtain ⟨-, hsplit⟩ := List.cons.inj hsplit
      obtain ⟨-, hsplit⟩ := List.cons.inj hsplit
      obtain ⟨rfl, -⟩ := List.cons.inj hsplit
      show Headed ([l₁, l₂] ++ _)
      exact headed_concat hheader
    · simp at hsplit

theorem isSegmentText_fourLines {file : String}
    (hlines : unixLines (fourLines file).toList = ["diff --git a/x b/x".toList,
      "+++ b/".toList ++ file.toList, "@@ -3,0 +4 @@".toList, "+let x".toList])
    (hreturn : (fourLines file).toList.getLast? ≠ some '\r')
    (hshort : file.toList.length ≤ 4000) : IsSegmentText (fourLines file) where
  noReturn := hreturn
  selfContained := hlines ▸ isSelfContained_fourLines
  short := by
    refine hasShortNumbers_of_length fun line hline => ?_
    rw [hlines] at hline
    simp only [List.mem_cons, List.not_mem_nil, or_false] at hline
    rcases hline with rfl | rfl | rfl | rfl
    · decide
    · rw [List.length_append]
      exact Nat.le_trans (Nat.add_le_add_left hshort _) (by decide)
    · decide
    · decide

theorem ofDiff_joined_fourLines :
    (∃ m m' u, ChangeMap.ofDiff {} openText = .ok m ∧
      ChangeMap.ofDiff {} (fourLines "a.ts") = .ok m' ∧
      ChangeMap.ofDiff {} (openText ++ "\n" ++ fourLines "a.ts") = .ok u ∧
      IsUnionOf [m, m'] u) ∧
    ∃ u u', ChangeMap.ofDiff {} (join "\n" [fourLines "a.ts", fourLines "b.ts"]) = .ok u ∧
      ChangeMap.ofDiff {} (join "\n" [fourLines "b.ts", fourLines "a.ts"]) = .ok u' ∧
      SameMap u u' := by
  have ha : IsSegmentText (fourLines "a.ts") :=
    isSegmentText_fourLines (by decide +kernel) (by decide +kernel) (by decide)
  have hb : IsSegmentText (fourLines "b.ts") :=
    isSegmentText_fourLines (by decide +kernel) (by decide +kernel) (by decide)
  obtain ⟨hpair, hlist⟩ := ofDiff_joined {}
  refine ⟨hpair _ _ (by decide +kernel) ?_ ha.short ha.selfContained, hlist _ _ ?_ ?_⟩
  · exact hasShortNumbers_of_length (by decide +kernel)
  · exact List.Perm.swap ..
  · intro t ht
    simp only [List.mem_cons, List.not_mem_nil, or_false] at ht
    rcases ht with rfl | rfl
    · exact ha
    · exact hb

end PullReview
