import PullReview.Changes.Map

/-!
# What the operations on a change map do to its contents

A change map is looked at in two ways: which paths it holds (`paths`), and which
lines of them it touches (`touches`). Each operation has one lemma for each
view; nothing else about the list behind the map is used later.
-/

namespace PullReview.ChangeMap

theorem touches_empty (path : String) (line : Int) : empty.touches path line = false := rfl

/-- A path is held exactly if it has lines, perhaps none. -/
theorem lines?_isSome_iff {m : ChangeMap} {path : String} :
    (m.lines? path).isSome = true ↔ path ∈ m.paths := by
  unfold lines? paths
  rw [List.lookup_isSome_iff]
  simp only [List.mem_map]
  constructor
  · rintro ⟨entry, hentry, he⟩
    exact ⟨entry, hentry, (eq_of_beq he).symm⟩
  · rintro ⟨entry, hentry, rfl⟩
    exact ⟨entry, hentry, beq_self_eq_true _⟩

/-- A touched line is one of the lines that the map holds for its file. -/
theorem touches_iff {m : ChangeMap} {path : String} {line : Int} :
    m.touches path line = true ↔ ∃ lines, m.lines? path = some lines ∧ line ∈ lines := by
  unfold touches
  cases m.lines? path with
  | some lines => simp only [List.contains_iff_mem, Option.some.injEq, exists_eq_left']
  | none => simp only [Bool.false_eq_true, reduceCtorEq, false_and, exists_false]

/-- Only files of the map have touched lines. -/
theorem mem_paths_of_touches {m : ChangeMap} {path : String} {line : Int}
    (h : m.touches path line = true) : path ∈ m.paths := by
  obtain ⟨lines, hlines, _⟩ := touches_iff.mp h
  rw [← lines?_isSome_iff, hlines]
  rfl

/-! ## A file is entered -/

theorem mem_paths_withFile {m : ChangeMap} {path q : String} :
    q ∈ (m.withFile path).paths ↔ q ∈ m.paths ∨ q = path := by
  unfold withFile
  split
  · next h =>
    have hpath := lines?_isSome_iff.mp h
    constructor
    · exact Or.inl
    · rintro (hq | rfl)
      · exact hq
      · exact hpath
  · simp [paths]

theorem nodup_paths_withFile {m : ChangeMap} (hm : m.paths.Nodup) (path : String) :
    (m.withFile path).paths.Nodup := by
  unfold withFile
  split
  · exact hm
  · next h =>
    have hpath : path ∉ m.paths := fun hin => h (lines?_isSome_iff.mpr hin)
    show (List.map (·.1) (m.files ++ [(path, [])])).Nodup
    rw [List.map_append, List.nodup_append]
    refine ⟨hm, by simp, ?_⟩
    intro a ha b hb
    have hb : b = path := by simpa using hb
    rintro rfl
    exact hpath (hb ▸ ha)

/-- Entering a file touches no line. -/
theorem touches_withFile (m : ChangeMap) (path q : String) (line : Int) :
    (m.withFile path).touches q line = m.touches q line := by
  unfold withFile
  split
  · rfl
  · next h =>
    unfold touches lines? at *
    rw [List.lookup_append]
    cases hq : m.files.lookup q with
    | some lines => rfl
    | none =>
      -- whether `q` is the new file or missing still, it has no lines
      rw [List.lookup_cons]
      cases q == path <;> rfl

/-! ## A line is added -/

theorem paths_addLine (m : ChangeMap) (path : String) (line : Int) :
    (m.addLine path line).paths = m.paths := by
  unfold addLine paths
  rw [List.map_map]
  apply List.map_congr_left
  intro entry _
  simp only [Function.comp_apply]
  split <;> rfl

/-- The lines of each file after a line was added to one. -/
theorem lines?_addLine (m : ChangeMap) (path q : String) (line : Int) :
    (m.addLine path line).lines? q
      = (m.lines? q).map fun lines => if q = path then line :: lines else lines := by
  unfold addLine lines?
  induction m.files with
  | nil => rfl
  | cons entry rest ih =>
    obtain ⟨p, lines⟩ := entry
    have hkey : (if p = path then (p, line :: lines) else (p, lines))
        = (p, if p = path then line :: lines else lines) := by split <;> rfl
    simp only [List.map_cons, hkey, List.lookup_cons]
    cases hqp : q == p with
    | true =>
      have he : q = p := eq_of_beq hqp
      subst he
      rfl
    | false => exact ih

/-- A line added to a file of the map is touched, beside all that were. -/
theorem touches_addLine {m : ChangeMap} {path : String} (hpath : path ∈ m.paths) (line : Int)
    (q : String) (k : Int) :
    (m.addLine path line).touches q k = true ↔
      m.touches q k = true ∨ (q = path ∧ k = line) := by
  unfold touches
  rw [lines?_addLine]
  by_cases he : q = path
  · subst he
    obtain ⟨lines, hlines⟩ := Option.isSome_iff_exists.mp (lines?_isSome_iff.mpr hpath)
    rw [hlines]
    simp only [Option.map_some, if_true, List.contains_cons, Bool.or_eq_true, beq_iff_eq, true_and]
    exact Or.comm
  · cases hq : m.lines? q with
    | none => simp [he]
    | some lines => simp [he]

end PullReview.ChangeMap
