import PullReview.Pipeline
import PullReview.Proofs.World.Run

/-!
# Analyzers report on changed lines only

Whatever the compiler and the linter print, and however they end, each of the
usual analyzers gives findings on lines that the change adds. All three turn
diagnostics into findings with `findingsOnChange`, which drops the others; what
is left to see is that no way through an analyzer goes round it.

Main statement: `usual_onChange`.
-/

namespace PullReview

open Act

/-- A finding lies on a line that the change adds. -/
def Finding.OnChange (changes : ChangeMap) (f : Finding) : Prop :=
  ∃ n, f.line = some n ∧ changes.touches f.file n = true

/-- Findings on changed lines only. -/
def AllOnChange (changes : ChangeMap) (fs : List Finding) : Prop := ∀ f ∈ fs, f.OnChange changes

theorem allOnChange_nil (changes : ChangeMap) : AllOnChange changes [] := by
  intro f hf
  exact absurd hf List.not_mem_nil

theorem AllOnChange.append {changes : ChangeMap} {fs gs : List Finding}
    (hfs : AllOnChange changes fs) (hgs : AllOnChange changes gs) :
    AllOnChange changes (fs ++ gs) := by
  intro f hf
  rcases List.mem_append.mp hf with h | h
  · exact hfs f h
  · exact hgs f h

/-- A finding made of a diagnostic has a line, and the change adds it. -/
theorem Diagnostic.finding?_onChange {d : Diagnostic} {workspace : List String} {tool : String}
    {changes : ChangeMap} {fixed : Option Severity} {f : Finding}
    (h : d.finding? workspace tool changes fixed = some f) : f.OnChange changes := by
  unfold Diagnostic.finding? at h
  dsimp only at h
  split at h
  · exact absurd h (by simp)
  · next line _ =>
    split at h
    · next htouched =>
      obtain rfl := Option.some.inj h
      exact ⟨line, rfl, htouched⟩
    · exact absurd h (by simp)

theorem findingsOnChange_onChange (workspace : List String) (tool : String) (changes : ChangeMap)
    (fixed : Option Severity) (ds : List Diagnostic) :
    AllOnChange changes (findingsOnChange workspace tool changes fixed ds) := by
  intro f hf
  obtain ⟨d, _, hd⟩ := List.mem_filterMap.mp hf
  exact Diagnostic.finding?_onChange hd

section Analyzers

variable {σ : Type} (shell : Shell σ) (changes : ChangeMap)

/-! ## The type checker -/

theorem TypeCheck.projectFindings_onChange (tc : TypeCheck) (changed : List (List String))
    (project : List String) :
    Returns (tc.projectFindings shell changes changed project) (AllOnChange changes) := by
  unfold TypeCheck.projectFindings
  refine returns_bind fun listed => ?_
  split
  · refine returns_bind fun directory => ?_
    dsimp only
    split
    · exact returns_bind fun _ => returns_pure (allOnChange_nil changes)
    · refine returns_bind fun _ => returns_bind fun result => ?_
      split
      · exact returns_throw _
      · split
        · exact returns_bind fun _ => returns_pure (allOnChange_nil changes)
        · exact returns_pure (findingsOnChange_onChange tc.workspace _ changes none _)
  · exact returns_pure (allOnChange_nil changes)

/-- Project after project the findings stay on changed lines, also when the
checker goes missing in between. -/
theorem TypeCheck.checkProjects_onChange (tc : TypeCheck) (changed : List (List String)) :
    ∀ (projects : List (List String)) (found : List Finding), AllOnChange changes found →
      Returns (tc.checkProjects shell changes changed projects found) (AllOnChange changes) := by
  intro projects
  induction projects with
  | nil =>
    intro found hfound
    exact returns_bind fun _ => returns_pure hfound
  | cons project rest ih =>
    intro found hfound
    unfold TypeCheck.checkProjects
    refine Returns.bind (tc.projectFindings_onChange shell changes changed project).attempt
      fun answer hanswer => ?_
    split
    · next more => exact ih _ (hfound.append (hanswer more rfl))
    · -- without the checker what the projects before have given is kept
      exact returns_bind fun _ => returns_pure hfound
    · exact returns_throw _

theorem TypeCheck.findings_onChange (tc : TypeCheck) :
    Returns (tc.findings shell changes) (AllOnChange changes) := by
  unfold TypeCheck.findings
  split
  · exact returns_pure (allOnChange_nil changes)
  · refine returns_bind fun changed => returns_bind fun tree => ?_
    dsimp only
    split
    · exact returns_bind fun _ => returns_pure (allOnChange_nil changes)
    · exact tc.checkProjects_onChange shell changes _ _ [] (allOnChange_nil changes)

/-! ## The linter, by the project's rules and by the built-in ones -/

theorem ProjectLint.fromReport_onChange (pl : ProjectLint) (report : List LintFile) :
    Returns (pl.fromReport changes report : Act σ (List Finding)) (AllOnChange changes) := by
  have hfound := findingsOnChange_onChange pl.workspace ProjectLint.tool changes none
  unfold ProjectLint.fromReport
  dsimp only
  split
  · refine returns_bind fun _ => ?_
    split
    · exact returns_bind fun _ => returns_pure (allOnChange_nil changes)
    · exact returns_bind fun _ => returns_pure (hfound _)
  · split
    · exact returns_bind fun _ => returns_pure (allOnChange_nil changes)
    · exact returns_bind fun _ => returns_pure (hfound _)

theorem ProjectLint.findings_onChange (pl : ProjectLint) :
    Returns (pl.findings shell changes) (AllOnChange changes) := by
  unfold ProjectLint.findings
  dsimp only
  split
  · exact returns_pure (allOnChange_nil changes)
  · refine returns_bind fun tree => returns_bind fun mode => ?_
    split
    · exact returns_bind fun _ => returns_pure (allOnChange_nil changes)
    · refine returns_bind fun _ => returns_bind fun answer => ?_
      split
      · exact pl.fromReport_onChange changes _
      · exact returns_bind fun _ => returns_pure (allOnChange_nil changes)
      · exact returns_bind fun _ => returns_pure (allOnChange_nil changes)
      · exact returns_throw _

theorem Baseline.findings_onChange (b : Baseline) (tag : Act σ String) :
    Returns (b.findings shell tag changes) (AllOnChange changes) := by
  unfold Baseline.findings
  dsimp only
  split
  · exact returns_pure (allOnChange_nil changes)
  · refine returns_bind fun typed => returns_bind fun _ => returns_bind fun answer => ?_
    split
    · exact returns_bind fun _ => returns_pure (allOnChange_nil changes)
    · exact returns_throw _
    · have hfound := findingsOnChange_onChange b.workspace Baseline.tool changes (some .warning)
      exact returns_bind fun _ => returns_pure (hfound _)

/-! ## All of them -/

/-- **The usual analyzers report on changed lines only**, whatever the compiler
and the linter do. -/
theorem usual_onChange (settings : Settings) (workspace : List String) (depth : Nat)
    (tag : Act σ String) :
    ∀ a ∈ Analyzer.usual settings workspace depth shell tag,
      Returns (a.run changes) (AllOnChange changes) := by
  intro a ha
  unfold Analyzer.usual at ha
  simp only [List.mem_cons, List.not_mem_nil, or_false] at ha
  rcases ha with rfl | rfl | rfl
  · exact TypeCheck.findings_onChange shell changes _
  · exact ProjectLint.findings_onChange shell changes _
  · exact Baseline.findings_onChange shell changes _ tag

end Analyzers

/-! ## What is gathered -/

variable {σ : Type}

/-- The outcomes of analyzers that keep to changed lines hold no other findings. -/
theorem outcomes_onChange (changes : ChangeMap) :
    ∀ analyzers : List (Analyzer σ),
      (∀ a ∈ analyzers, Returns (a.run changes) (AllOnChange changes)) →
      Returns (Analyzer.outcomes changes analyzers) fun answers =>
        ∀ answer ∈ answers, ∀ found, answer.2 = .ok found → AllOnChange changes found := by
  intro analyzers
  induction analyzers with
  | nil =>
    intro _
    exact returns_pure fun answer h => absurd h List.not_mem_nil
  | cons a rest ih =>
    intro h
    unfold Analyzer.outcomes
    refine Returns.bind (h a (List.mem_cons_self ..)).attempt fun outcome houtcome => ?_
    refine Returns.bind (ih fun b hb => h b (List.mem_cons_of_mem _ hb)) fun more hmore => ?_
    refine returns_pure fun answer hanswer => ?_
    rcases List.mem_cons.mp hanswer with rfl | hin
    · exact houtcome
    · exact hmore answer hin

theorem gather_onChange (changes : ChangeMap) :
    ∀ answers : List (String × Except Fault (List Finding)),
      (∀ answer ∈ answers, ∀ found, answer.2 = .ok found → AllOnChange changes found) →
      Returns (Analyzer.gather answers : Act σ (List Finding)) (AllOnChange changes) := by
  intro answers
  induction answers with
  | nil => intro _; exact returns_pure (allOnChange_nil changes)
  | cons answer rest ih =>
    intro h
    have hrest := ih fun b hb => h b (List.mem_cons_of_mem _ hb)
    obtain ⟨name, outcome⟩ := answer
    cases outcome with
    | ok found =>
      have hfound := h (name, .ok found) (List.mem_cons_self ..) found rfl
      exact Returns.bind hrest fun more hmore => returns_pure (hfound.append hmore)
    | error fault =>
      unfold Analyzer.gather
      split
      · exact returns_throw fault
      · exact returns_bind fun _ => hrest

/-- Run together they report on changed lines only. -/
theorem runAll_onChange {changes : ChangeMap} {analyzers : List (Analyzer σ)}
    (h : ∀ a ∈ analyzers, Returns (a.run changes) (AllOnChange changes)) :
    Returns (Analyzer.runAll analyzers changes) (AllOnChange changes) :=
  Returns.bind (outcomes_onChange changes analyzers h) fun answers hanswers =>
    gather_onChange changes answers hanswers

end PullReview
