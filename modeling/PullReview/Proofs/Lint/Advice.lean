import PullReview.Lint.Baseline
import PullReview.Proofs.Json.Limits
import PullReview.Proofs.World.Ends

/-!
# What the built-in rules give

Whatever the linter prints, the built-in rules give advice: warnings, on lines whose numbers
can be written, since they were read before. And whatever it does short of an order to stop,
they fail with ordinary faults alone (`Baseline.ends_findings`).
-/

namespace PullReview

open Act

variable {σ : Type}

def Fault.Ordinary (fault : Fault) : Prop := fault.isOrdinary = true

/-- Warnings on lines that can be written. -/
def AreAdvice (fs : List Finding) : Prop := ∀ f ∈ fs, f.severity = .warning ∧ f.isWritable = true

theorem areAdvice_nil : AreAdvice [] := fun _ hf => absurd hf List.not_mem_nil

/-! ## Reading -/

/-- A number that can be written, if there is one. -/
def IsShortAtMost (number : Option Int) : Prop :=
  ∀ n, number = some n → Numeral.isShort n = true

theorem isShortAtMost_none : IsShortAtMost none := fun _ h => absurd h (by simp)

theorem isShortAtMost_some {n : Int} (h : Numeral.isShort n = true) : IsShortAtMost (some n) :=
  fun _ hn => Option.some.inj hn ▸ h

def LintMessage.HasShortLine (m : LintMessage) : Prop := IsShortAtMost m.line

def LintFile.HasShortLines (f : LintFile) : Prop := ∀ m ∈ f.messages, m.HasShortLine

/-- A report on lines that can be written. -/
def HaveShortLines (report : List LintFile) : Prop := ∀ f ∈ report, f.HasShortLines

theorem haveShortLines_nil : HaveShortLines [] := fun _ hf => absurd hf List.not_mem_nil

section Flawless

variable {depth : Nat} {v : Json} (h : v.flaw? depth = none)
include h

theorem LintMessage.wholeNumber_short :
    Allowed IsShortAtMost Fault.Ordinary (LintMessage.wholeNumber v) := by
  unfold LintMessage.wholeNumber
  split
  · exact isShortAtMost_some (Json.isShort_of_flaw? h)
  · split
    · split
      · next hread => exact isShortAtMost_some (Numeral.isShort_readInt hread)
      · next fault _ => cases fault <;> rfl
    · exact isShortAtMost_none
  · exact isShortAtMost_none

theorem LintMessage.ofJson_short :
    Allowed LintMessage.HasShortLine Fault.Ordinary (LintMessage.ofJson v) := by
  have hmember := Json.flaw?_getD h
  unfold LintMessage.ofJson
  exact (wholeNumber_short (hmember _)).bind fun _ _ => (wholeNumber_short (hmember _)).bind
    fun _ hline => (wholeNumber_short (hmember _)).bind fun _ _ => hline

theorem LintFile.messageObjects_flawless :
    Allowed (fun objects => ∀ o ∈ objects, o.flaw? (depth - 1) = none) Fault.Ordinary
      (LintFile.messageObjects v) := by
  have hnone : ∀ o ∈ ([] : List Json), o.flaw? (depth - 1) = none := fun _ ho =>
    absurd ho List.not_mem_nil
  unfold LintFile.messageObjects
  split
  · exact hnone
  · cases v with
    | arr items =>
      obtain ⟨d, rfl, hitems⟩ := Json.flaw?_arr h
      exact fun o ho => hitems o (List.mem_filter.mp ho).1
    | null | str | obj => exact hnone
    | bool | int | float => rfl

theorem LintFile.ofJson?_short :
    Allowed (fun f => ∀ file, f = some file → file.HasShortLines) Fault.Ordinary
      (LintFile.ofJson? v) := by
  unfold LintFile.ofJson?
  split
  · refine (messageObjects_flawless (Json.flaw?_getD h _)).bind fun objects hobjects => ?_
    refine (allowed_mapM objects fun o ho => LintMessage.ofJson_short (hobjects o ho)).bind
      fun messages hmessages => ?_
    intro file hfile
    obtain rfl := Option.some.inj hfile
    exact hmessages
  · rintro file ⟨⟩

theorem LintFile.ofReport_short :
    Allowed HaveShortLines Fault.Ordinary (LintFile.ofReport v) := by
  unfold LintFile.ofReport
  split
  · next entries =>
    obtain ⟨d, rfl, hentries⟩ := Json.flaw?_arr h
    refine (allowed_mapM entries fun e he => ofJson?_short (hentries e he)).bind
      fun files hfiles f hf => ?_
    obtain ⟨found, hfound, rfl⟩ := List.mem_filterMap.mp hf
    exact hfiles _ hfound f rfl
  · rfl

end Flawless

/-- Whatever a call of the linter printed, reading it is no order to stop, and the lines that
are read can be written. -/
theorem Linter.readResult_short (l : Linter) (result : CommandResult) :
    Allowed HaveShortLines Fault.Ordinary (l.readResult result) := by
  unfold Linter.readResult
  split
  · rfl
  · split
    · split
      · rfl
      · rfl
    · next v hread => exact LintFile.ofReport_short (Json.flaw?_of_read hread)

/-! ## Findings -/

theorem Baseline.diagnostics_short {report : List LintFile} (h : HaveShortLines report) :
    ∀ d ∈ Baseline.diagnostics report, IsShortAtMost d.line := by
  intro d hd
  obtain ⟨file, hfile, hmessage⟩ := List.mem_flatMap.mp hd
  obtain ⟨m, hm, rfl⟩ := List.mem_map.mp hmessage
  exact h file (List.mem_filter.mp hfile).1 m hm

/-- Diagnostics on lines that can be written, taken as warnings, are advice. -/
theorem areAdvice_findingsOnChange {ds : List Diagnostic} (h : ∀ d ∈ ds, IsShortAtMost d.line)
    (workspace : List String) (tool : String) (changes : ChangeMap) :
    AreAdvice (findingsOnChange workspace tool changes (some .warning) ds) := by
  intro f hf
  obtain ⟨d, hd, hfinding⟩ := List.mem_filterMap.mp hf
  have hline := h d hd
  unfold Diagnostic.finding? at hfinding
  dsimp only at hfinding
  split at hfinding
  · exact absurd hfinding (by simp)
  · next line hsome =>
    have hshort : (some line).all Numeral.isShort = true := Option.all_some.trans (hline line hsome)
    split at hfinding
    · obtain rfl := Option.some.inj hfinding
      exact ⟨rfl, hshort⟩
    · exact absurd hfinding (by simp)

/-! ## The baseline -/

section Baseline

variable {I : σ → Prop} {shell : Shell σ} {tag : Act σ String}
  (hshell : ∀ command, Ends (shell command) I (fun _ => True) Fault.Ordinary)
  (htag : Ends tag I (fun _ => True) Fault.Ordinary)

theorem ends_tree {E : Fault → Prop} : Ends (Act.tree : Act σ Tree) I (fun _ => True) E :=
  fun _ hw => ⟨hw, trivial⟩

theorem ends_setTree {E : Fault → Prop} (t : Tree) :
    Ends (Act.setTree t : Act σ Unit) I (fun _ => True) E := fun _ hw => ⟨hw, trivial⟩

/-- Faults of the file system are ordinary. -/
theorem FileFault.ordinary (cause : FileFault) : (Fault.file cause).Ordinary := by
  cases cause <;> rfl

theorem ends_changeTree (change : Tree → Except FileFault Tree) :
    Ends (Act.changeTree change : Act σ Unit) I (fun _ => True) Fault.Ordinary := by
  unfold Act.changeTree
  refine ends_tree.bind fun t _ => ?_
  split
  · exact ends_setTree _
  · exact ends_throw (FileFault.ordinary _)

theorem ends_probeFile (path : Path) :
    Ends (Act.probeFile path : Act σ Bool) I (fun _ => True) Fault.Ordinary := by
  unfold Act.probeFile
  refine ends_tree.bind fun t _ => ends_liftM ?_
  cases t.probeFile path with
  | ok found => exact trivial
  | error cause => exact FileFault.ordinary cause

include hshell in
theorem Linter.ends_lint (l : Linter) (files : List String) (config : Option String)
    (more : List (String × String)) :
    Ends (l.lint shell files config more) I HaveShortLines Fault.Ordinary := by
  unfold Linter.lint
  split
  · exact ends_pure haveShortLines_nil
  · refine (hshell _).bind fun result _ => ?_
    have hread := l.readResult_short result
    split
    · next report hreport =>
      rw [hreport] at hread
      exact ends_pure hread
    · next fault hfault =>
      rw [hfault] at hread
      exact ends_throw hread

include htag in
theorem Baseline.ends_withConfig {α : Type} {P : α → Prop} (b : Baseline) (rules : RuleSet)
    {act : String → Act σ α} (hact : ∀ name, Ends (act name) I P Fault.Ordinary) :
    Ends (b.withConfig tag rules act) I P Fault.Ordinary := by
  unfold Baseline.withConfig
  refine htag.bind fun fresh _ => (ends_changeTree _).bind fun _ _ => ?_
  refine (hact _).attempt.bind fun answer hanswer => ?_
  refine ends_tree.bind fun t _ => (ends_setTree _).bind fun _ _ => ?_
  cases answer with
  | ok a => exact ends_pure hanswer
  | error fault => exact ends_throw hanswer

include hshell htag in
theorem Baseline.ends_pass (b : Baseline) (files : List String) (rules : RuleSet) :
    Ends (b.pass shell tag files rules) I HaveShortLines Fault.Ordinary := by
  have hlint := b.ends_withConfig htag rules fun name =>
    b.linter.ends_lint hshell files (some name) []
  unfold Baseline.pass
  refine hlint.attempt.bind fun answer hanswer => ?_
  split
  · exact ends_pure hanswer
  · exact (ends_write _ _ _).bind fun _ _ => ends_pure haveShortLines_nil
  · split
    · exact (ends_write _ _ _).bind fun _ _ => ends_pure haveShortLines_nil
    · exact ends_throw hanswer

include hshell htag in
theorem Baseline.ends_passes (b : Baseline) (files : List String) (typed : Bool) :
    Ends (b.passes shell tag files typed) I HaveShortLines Fault.Ordinary := by
  unfold Baseline.passes
  refine (b.ends_pass hshell htag files .base).bind fun base hbase => ?_
  cases typed with
  | false => exact ends_pure hbase
  | true =>
    refine (b.ends_pass hshell htag files .typeAware).bind fun more hmore =>
      ends_pure fun f hf => ?_
    exact (List.mem_append.mp hf).elim (hbase f) (hmore f)

include hshell htag in
/-- **The built-in rules give advice**, or fail with an ordinary fault, whatever the linter
does. -/
theorem Baseline.ends_findings (b : Baseline) (changes : ChangeMap) :
    Ends (b.findings shell tag changes) I AreAdvice Fault.Ordinary := by
  unfold Baseline.findings
  dsimp only
  split
  · exact ends_pure areAdvice_nil
  · refine (ends_probeFile _).bind fun typed _ => (ends_write _ _ _).bind fun _ _ => ?_
    refine (b.ends_passes hshell htag _ typed).attempt.bind fun answer hanswer => ?_
    split
    · exact (ends_write _ _ _).bind fun _ _ => ends_pure areAdvice_nil
    · exact ends_throw hanswer
    · exact (ends_write _ _ _).bind fun _ _ =>
        ends_pure (areAdvice_findingsOnChange (diagnostics_short hanswer) _ _ _)

end Baseline

end PullReview
