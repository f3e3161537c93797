import PullReview.Proofs.Changes.Kinds
import PullReview.Proofs.Changes.Map

/-!
# Runs of the scan

`Reads scope cur lines next` says that the scan goes from `cur` to `next` over
some lines without a fault. Outside a reviewed file every line but that of a new
path is passed over (`reads_idle`). Inside one, the body of a hunk touches
exactly the lines that it adds, counted from the number that the header gave
(`reads_body`), and so do hunks in a row (`reads_hunks`): each header sets the
number anew, so nothing is left of the hunk before.

Of a text in no layout at all it still holds that the files entered are those in scope that
some line names as a new path (`mem_paths_ofDiff_iff`).
-/

namespace PullReview

open Text

/-- The scan goes from `cur` to `next` over some lines, as they are read. -/
def Reads (scope : Scope) (cur : DiffCursor) (lines : List (List Char)) (next : DiffCursor) :
    Prop :=
  (lines.map DiffLine.ofChars).foldlM (DiffCursor.step scope) cur = .ok next

namespace Reads

variable {scope : Scope} {cur mid next : DiffCursor}

theorem nil : Reads scope cur [] cur := rfl

theorem cons {line : List Char} {lines : List (List Char)}
    (hline : DiffCursor.step scope cur (DiffLine.ofChars line) = .ok mid)
    (hlines : Reads scope mid lines next) : Reads scope cur (line :: lines) next := by
  unfold Reads
  rw [List.map_cons, List.foldlM_cons, hline]
  exact hlines

theorem append {front back : List (List Char)} (hfront : Reads scope cur front mid)
    (hback : Reads scope mid back next) : Reads scope cur (front ++ back) next := by
  unfold Reads at hfront ⊢
  rw [List.map_append, List.foldlM_append, hfront]
  exact hback

/-- A run over a first line goes through the cursor behind it. -/
theorem exists_of_cons {line : List Char} {lines : List (List Char)}
    (h : Reads scope cur (line :: lines) next) :
    ∃ mid, DiffCursor.step scope cur (DiffLine.ofChars line) = .ok mid ∧
      Reads scope mid lines next := by
  unfold Reads at h
  rw [List.map_cons, List.foldlM_cons] at h
  cases hline : DiffCursor.step scope cur (DiffLine.ofChars line) with
  | ok mid =>
    rw [hline] at h
    exact ⟨mid, rfl, h⟩
  | error fault =>
    rw [hline] at h
    have hfault : Except.error fault = Except.ok next := h
    exact absurd hfault (by simp)

/-- A run gives the map of a diff that has these lines. -/
theorem ofDiff_eq {diff : String} (h : Reads scope .start (unixLines diff.toList) next) :
    ChangeMap.ofDiff scope diff = .ok next.map := by
  unfold Reads at h
  unfold ChangeMap.ofDiff
  simp only [h]
  rfl

theorem of_ofDiff_eq {diff : String} {m : ChangeMap} (h : ChangeMap.ofDiff scope diff = .ok m) :
    ∃ next, Reads scope .start (unixLines diff.toList) next ∧ next.map = m := by
  unfold ChangeMap.ofDiff at h
  cases hrun : ((unixLines diff.toList).map DiffLine.ofChars).foldlM (DiffCursor.step scope)
      DiffCursor.start with
  | ok next =>
    simp only [hrun] at h
    exact ⟨next, hrun, Except.ok.inj h⟩
  | error fault =>
    simp only [hrun] at h
    have hfault : Except.error fault = Except.ok m := h
    exact absurd hfault (by simp)

end Reads

/-! ## Any text -/

/-- Of all kinds of lines only a new path enters a file, and only one in scope. -/
theorem mem_paths_step {scope : Scope} {cur next : DiffCursor} {kind : DiffLine}
    (hstep : DiffCursor.step scope cur kind = .ok next) (path : String) :
    path ∈ next.map.paths ↔
      path ∈ cur.map.paths ∨ (scope.admits path = true ∧ kind = .newFile path.toList) := by
  have hsame {kind : DiffLine} (hkind : kind ≠ .newFile path.toList)
      (h : next.map.paths = cur.map.paths) : path ∈ next.map.paths ↔
        path ∈ cur.map.paths ∨ (scope.admits path = true ∧ kind = .newFile path.toList) := by
    rw [h, or_iff_left fun hin => hkind hin.2]
  unfold DiffCursor.step at hstep
  split at hstep
  · next cs =>
    have hkind : DiffLine.newFile cs = .newFile path.toList ↔ path = String.ofList cs := by
      constructor
      · intro h
        rw [DiffLine.newFile.inj h, String.ofList_toList]
      · rintro rfl
        rw [String.toList_ofList]
    dsimp only at hstep
    rw [hkind]
    split at hstep
    · next hadmits =>
      obtain rfl := Except.ok.inj hstep
      rw [ChangeMap.mem_paths_withFile]
      exact or_congr_right ⟨fun h => ⟨h ▸ hadmits, h⟩, And.right⟩
    · next hadmits =>
      obtain rfl := Except.ok.inj hstep
      exact (or_iff_left fun ⟨h, hpath⟩ => hadmits (hpath ▸ h)).symm
  · obtain rfl := Except.ok.inj hstep
    exact hsame (by simp) rfl
  · obtain rfl := Except.ok.inj hstep
    exact hsame (by simp) rfl
  · next start =>
    split at hstep
    · obtain rfl := Except.ok.inj hstep
      exact hsame (by simp) rfl
    · cases hnat : Numeral.natOf start with
      | ok n =>
        rw [hnat] at hstep
        obtain rfl := Except.ok.inj hstep
        exact hsame (by simp) rfl
      | error fault =>
        rw [hnat] at hstep
        have hfault : Except.error fault = Except.ok next := hstep
        exact absurd hfault (by simp)
  · split at hstep
    · obtain rfl := Except.ok.inj hstep
      exact hsame (by simp) rfl
    · obtain rfl := Except.ok.inj hstep
      exact hsame (by simp) (ChangeMap.paths_addLine ..)
  · split at hstep
    · obtain rfl := Except.ok.inj hstep
      exact hsame (by simp) rfl
    · obtain rfl := Except.ok.inj hstep
      exact hsame (by simp) rfl
  · obtain rfl := Except.ok.inj hstep
    exact hsame (by simp) rfl

theorem Reads.mem_paths {scope : Scope} {next : DiffCursor} (path : String) :
    ∀ {lines : List (List Char)} {cur : DiffCursor}, Reads scope cur lines next →
      (path ∈ next.map.paths ↔ path ∈ cur.map.paths ∨
        (scope.admits path = true ∧ "+++ b/".toList ++ path.toList ∈ lines)) := by
  intro lines
  induction lines with
  | nil =>
    intro cur h
    obtain rfl := Except.ok.inj h
    simp
  | cons line lines ih =>
    intro cur h
    obtain ⟨mid, hstep, hrest⟩ := h.exists_of_cons
    rw [ih hrest, mem_paths_step hstep, DiffLine.ofChars_newFile_iff, List.mem_cons, or_assoc,
      ← and_or_left, eq_comm (a := line)]

/-- **The files in the map of a diff**, whatever text that is: those in scope that some line
names as a new path. -/
theorem mem_paths_ofDiff_iff {scope : Scope} {diff : String} {m : ChangeMap}
    (h : ChangeMap.ofDiff scope diff = .ok m) (path : String) :
    path ∈ m.paths ↔
      scope.admits path = true ∧ "+++ b/".toList ++ path.toList ∈ unixLines diff.toList := by
  obtain ⟨next, hreads, rfl⟩ := Reads.of_ofDiff_eq h
  rw [hreads.mem_paths]
  exact or_iff_right List.not_mem_nil

/-- Only files in scope are in the map of a diff. -/
theorem ofDiff_admits {scope : Scope} {diff : String} {m : ChangeMap}
    (h : ChangeMap.ofDiff scope diff = .ok m) : ∀ p ∈ m.paths, scope.admits p = true :=
  fun p hp => ((mem_paths_ofDiff_iff h p).mp hp).1

/-! ## Outside a reviewed file -/

theorem step_idle {scope : Scope} {cur : DiffCursor} (hfile : cur.file = none) {kind : DiffLine}
    (hkind : ∀ path, kind ≠ .newFile path) : DiffCursor.step scope cur kind = .ok cur := by
  obtain ⟨map, file, line⟩ := cur
  subst hfile
  -- without a file every other kind leaves the cursor where it is
  cases kind with
  | newFile path => exact absurd rfl (hkind path)
  | oldFile => rfl
  | boundary => rfl
  | hunk start => rfl
  | added => rfl
  | context => rfl
  | other => rfl

theorem reads_idle {scope : Scope} {cur : DiffCursor} (hfile : cur.file = none) :
    ∀ lines : List (List Char), (∀ l ∈ lines, ¬ "+++ b/".toList <+: l) →
      Reads scope cur lines cur := by
  intro lines
  induction lines with
  | nil => intro _; exact Reads.nil
  | cons line lines ih =>
    intro h
    have hline := DiffLine.ofChars_ne_newFile (h line (List.mem_cons_self ..))
    exact Reads.cons (step_idle hfile hline) (ih fun l hl => h l (List.mem_cons_of_mem _ hl))

/-! ## The lines that a hunk adds -/

theorem addedIn_nil {start n : Nat} : ¬ AddedIn start [] n := by
  rintro ⟨before, text, after, h, _⟩
  exact absurd h (by simp)

theorem countP_line (line : BodyLine) (body : List BodyLine) :
    (line :: body).countP BodyLine.isInNewFile
      = [line].countP BodyLine.isInNewFile + body.countP BodyLine.isInNewFile := by
  rw [← List.countP_append, List.singleton_append]

/-- What a body adds behind its first line: the numbers go on from there. -/
theorem addedIn_cons {start n : Nat} {line : BodyLine} {body : List BodyLine} :
    AddedIn start (line :: body) n ↔
      ((∃ text, line = .added text) ∧ n = start) ∨
        AddedIn (start + [line].countP BodyLine.isInNewFile) body n := by
  constructor
  · rintro ⟨before, text, after, hsplit, hn⟩
    cases before with
    | nil =>
      obtain ⟨rfl, -⟩ := List.cons.inj hsplit
      exact Or.inl ⟨⟨text, rfl⟩, hn⟩
    | cons first before =>
      obtain ⟨rfl, hbody⟩ := List.cons.inj hsplit
      refine Or.inr ⟨before, text, after, hbody, ?_⟩
      rw [hn, countP_line line before, Nat.add_assoc]
  · rintro (⟨⟨text, rfl⟩, rfl⟩ | ⟨before, text, after, rfl, hn⟩)
    · exact ⟨[], text, body, rfl, rfl⟩
    · refine ⟨line :: before, text, after, rfl, ?_⟩
      rw [hn, countP_line line before, Nat.add_assoc]

/-! ## Inside a reviewed file -/

/-- From `cur` to `next` the open file stays open, no file is entered, and
exactly the lines in `P` are touched beside the old ones. -/
structure Grown (path : String) (cur next : DiffCursor) (P : Nat → Prop) : Prop where
  file : next.file = some path
  paths : next.map.paths = cur.map.paths
  touches : ∀ q k, next.map.touches q k = true ↔
    cur.map.touches q k = true ∨ (q = path ∧ ∃ n : Nat, k = n ∧ P n)

namespace Grown

variable {path : String} {cur mid next : DiffCursor} {P Q : Nat → Prop}

theorem trans (h : Grown path cur mid P) (h' : Grown path mid next Q) :
    Grown path cur next fun n => P n ∨ Q n where
  file := h'.file
  paths := h'.paths.trans h.paths
  touches := by
    intro q k
    rw [h'.touches q k, h.touches q k]
    constructor
    · rintro ((hcur | ⟨hq, n, hk, hn⟩) | ⟨hq, n, hk, hn⟩)
      · exact Or.inl hcur
      · exact Or.inr ⟨hq, n, hk, Or.inl hn⟩
      · exact Or.inr ⟨hq, n, hk, Or.inr hn⟩
    · rintro (hcur | ⟨hq, n, hk, hn | hn⟩)
      · exact Or.inl (Or.inl hcur)
      · exact Or.inl (Or.inr ⟨hq, n, hk, hn⟩)
      · exact Or.inr ⟨hq, n, hk, hn⟩

theorem of_iff (h : Grown path cur next P) (hPQ : ∀ n, P n ↔ Q n) : Grown path cur next Q where
  file := h.file
  paths := h.paths
  touches := by
    intro q k
    rw [h.touches q k]
    simp only [hPQ]

/-- Nothing is touched when the map stays. -/
theorem of_map_eq (hfile : next.file = some path) (hmap : next.map = cur.map) :
    Grown path cur next fun _ => False where
  file := hfile
  paths := by rw [hmap]
  touches := by intro q k; simp [hmap]

end Grown

section InFile

variable (scope : Scope) (eol : LineEnd) {path : String} {cur : DiffCursor}

/-- A header sets the number of the next line. -/
theorem step_hunk (hfile : cur.file = some path) {h : Hunk} (hshort : h.Short) :
    DiffCursor.step scope cur (.hunk (Numeral.digitValues h.new.start.chars))
      = .ok { cur with line := h.new.start.value } := by
  have hnat := h.new.start.natOf_eq hshort
  simp only [DiffCursor.step, hfile, hnat]
  rfl

/-- One body line: the number of the next line goes on over a line of the new
file, and an added line is touched. -/
theorem step_bodyLine (hfile : cur.file = some path)
    (hpath : path ∈ cur.map.paths) (line : BodyLine)
    (hplain : ∀ text, line = .added text → ¬ "++ b/".toList <+: text.chars) :
    ∃ next, DiffCursor.step scope cur (DiffLine.ofChars (eol.received line.chars)) = .ok next ∧
      next.line = cur.line + [line].countP BodyLine.isInNewFile ∧
      Grown path cur next fun n => (∃ text, line = .added text) ∧ n = cur.line := by
  cases line with
  | context text =>
    have hkind : DiffLine.ofChars (eol.received (BodyLine.context text).chars) = .context := by
      rw [BodyLine.chars, eol.received_cons (by decide)]
      exact DiffLine.ofChars_context _
    refine ⟨{ cur with line := cur.line + 1 }, ?_, rfl, ?_⟩
    · rw [hkind]; simp only [DiffCursor.step, hfile]
    · have hgrown : Grown path cur { cur with line := cur.line + 1 } fun _ => False :=
        Grown.of_map_eq hfile rfl
      exact hgrown.of_iff fun n => by simp
  | added text =>
    have hkind : DiffLine.ofChars (eol.received (BodyLine.added text).chars) = .added := by
      rw [BodyLine.chars, eol.received_cons (by decide)]
      exact DiffLine.ofChars_added fun h =>
        hplain text rfl (h.trans (eol.received_prefix text.chars))
    refine ⟨{ cur with map := cur.map.addLine path cur.line, line := cur.line + 1 }, ?_, rfl, ?_⟩
    · rw [hkind]; simp only [DiffCursor.step, hfile]
    · refine ⟨hfile, ChangeMap.paths_addLine .., ?_⟩
      intro q k
      rw [ChangeMap.touches_addLine hpath]
      constructor
      · rintro (hcur | ⟨hq, hk⟩)
        · exact Or.inl hcur
        · exact Or.inr ⟨hq, cur.line, hk, ⟨text, rfl⟩, rfl⟩
      · rintro (hcur | ⟨hq, n, hk, -, rfl⟩)
        · exact Or.inl hcur
        · exact Or.inr ⟨hq, hk⟩
  | removed text =>
    -- with a text that begins with `-- ` this reads as an old path, which is as good
    have hstep : DiffCursor.step scope cur
        (DiffLine.ofChars (eol.received (BodyLine.removed text).chars)) = .ok cur := by
      rw [BodyLine.chars, eol.received_cons (by decide)]
      rcases DiffLine.ofChars_removed (eol.received text.chars) with h | h
      · rw [h]; rfl
      · rw [h]; rfl
    exact ⟨cur, hstep, rfl, (Grown.of_map_eq hfile rfl).of_iff fun n => by simp⟩
  | remark text =>
    have hstep : DiffCursor.step scope cur
        (DiffLine.ofChars (eol.received (BodyLine.remark text).chars)) = .ok cur := by
      rw [BodyLine.chars, eol.received_cons (by decide), DiffLine.ofChars_remark]
      rfl
    exact ⟨cur, hstep, rfl, (Grown.of_map_eq hfile rfl).of_iff fun n => by simp⟩

/-- **The body of a hunk touches exactly the lines that it adds.** -/
theorem reads_body :
    ∀ (body : List BodyLine) (cur : DiffCursor),
      (∀ text, BodyLine.added text ∈ body → ¬ "++ b/".toList <+: text.chars) →
      cur.file = some path → path ∈ cur.map.paths →
      ∃ next, Reads scope cur ((body.map BodyLine.chars).map eol.received) next ∧
        Grown path cur next (AddedIn cur.line body) := by
  intro body
  induction body with
  | nil =>
    intro cur _ hfile _
    refine ⟨cur, Reads.nil, (Grown.of_map_eq hfile rfl).of_iff fun n => ?_⟩
    exact ⟨False.elim, addedIn_nil⟩
  | cons line body ih =>
    intro cur hplain hfile hpath
    obtain ⟨mid, hstep, hline, hmid⟩ := step_bodyLine scope eol hfile hpath line
      fun text he => hplain text (he ▸ List.mem_cons_self ..)
    obtain ⟨next, hreads, hnext⟩ := ih mid
      (fun text ht => hplain text (List.mem_cons_of_mem _ ht)) hmid.file (hmid.paths ▸ hpath)
    refine ⟨next, Reads.cons hstep hreads, (hmid.trans hnext).of_iff fun n => ?_⟩
    rw [hline]
    exact addedIn_cons.symm

/-- A hunk touches exactly the lines that it adds, wherever the one before it
has ended. -/
theorem reads_hunk {h : Hunk} (hplain : h.Plain) (hshort : h.Short)
    (hfile : cur.file = some path) (hpath : path ∈ cur.map.paths) :
    ∃ next, Reads scope cur (h.lines.map eol.received) next ∧ Grown path cur next h.Adds := by
  have hstep : DiffCursor.step scope cur (DiffLine.ofChars (eol.received h.header))
      = .ok { cur with line := h.new.start.value } := by
    rw [Hunk.header, received_hunkHeader, DiffLine.ofChars_hunkHeader]
    exact step_hunk scope hfile hshort
  obtain ⟨next, hreads, hnext⟩ := reads_body scope eol h.body
    { cur with line := h.new.start.value } hplain hfile hpath
  exact ⟨next, Reads.cons hstep hreads, ⟨hnext.file, hnext.paths, hnext.touches⟩⟩

theorem reads_hunks :
    ∀ (hunks : List Hunk) (cur : DiffCursor), (∀ h ∈ hunks, h.Plain ∧ h.Short) →
      cur.file = some path → path ∈ cur.map.paths →
      ∃ next, Reads scope cur ((hunks.flatMap Hunk.lines).map eol.received) next ∧
        Grown path cur next fun n => ∃ h ∈ hunks, h.Adds n := by
  intro hunks
  induction hunks with
  | nil =>
    intro cur _ hfile _
    exact ⟨cur, Reads.nil, (Grown.of_map_eq hfile rfl).of_iff fun n => by simp⟩
  | cons h hunks ih =>
    intro cur hgood hfile hpath
    obtain ⟨hplain, hshort⟩ := hgood h (List.mem_cons_self ..)
    obtain ⟨mid, hreads, hmid⟩ := reads_hunk scope eol hplain hshort hfile hpath
    obtain ⟨next, hreads', hnext⟩ := ih mid
      (fun g hg => hgood g (List.mem_cons_of_mem _ hg)) hmid.file (hmid.paths ▸ hpath)
    refine ⟨next, ?_, (hmid.trans hnext).of_iff fun n => ?_⟩
    · rw [List.flatMap_cons, List.map_append]
      exact hreads.append hreads'
    · rw [List.exists_mem_cons_iff]

end InFile

end PullReview
