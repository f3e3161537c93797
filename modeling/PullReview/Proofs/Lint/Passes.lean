import PullReview.Lint.Baseline
import PullReview.Proofs.Lint.Reading
import PullReview.Proofs.Tree.Written
import PullReview.Proofs.World.Scene

/-!
# The passes of the built-in rules

The built-in rules are applied in two passes, and each of them calls the linter once. A pass
that fails reports nothing, and the other one is not touched by it.

> `findings_passes`: however the two calls end, the findings are those that the first pass has
> by itself and then those of the second. If a call finds no linter to start, there are none.

A call is made while a configuration is in the workspace (`Baseline.call`); what a pass reports
is known from how its call ends (`settles_pass`).
-/

namespace PullReview

open Act

namespace Baseline

variable {σ : Type}

/-- The call of a pass: its configuration is written, the linter is started, and the
configuration is taken away. -/
def call (b : Baseline) (shell : Shell σ) (tag : Act σ String) (files : List String)
    (rules : RuleSet) : Act σ CommandResult :=
  b.withConfig tag rules fun name => shell (b.linter.call files (some name) [])

/-- How a call may end for a pass to go on: with any output, if it can be read where there is
to be some, or with a fault of the system. -/
inductive IsForeseen (depth : Nat) : Except Fault CommandResult → Prop
  | ends (result : CommandResult) : (result.HasReport → result.IsLegible depth) →
      IsForeseen depth (.ok result)
  | fails (fault : Fault) : fault.isSystem = true → IsForeseen depth (.error fault)

/-- What a pass reports by the end of its call: the files of a list that was printed. Crashes,
other output and faults report nothing. -/
def reportOf (depth : Nat) : Except Fault CommandResult → List LintFile
  | .ok result =>
    if result.code = 0 ∨ result.code = 1 then
      match result.reported depth with
      | .ok (.arr entries) => entries.filterMap LintFile.shownBy
      | _ => []
    else []
  | .error _ => []

/-- The findings that a report has on the change. -/
def foundIn (b : Baseline) (changes : ChangeMap) (report : List LintFile) : List Finding :=
  findingsOnChange b.workspace tool changes (some .warning) (diagnostics report)

theorem foundIn_append (b : Baseline) (changes : ChangeMap) (report more : List LintFile) :
    b.foundIn changes (report ++ more) = b.foundIn changes report ++ b.foundIn changes more := by
  unfold foundIn findingsOnChange diagnostics
  rw [List.filter_append, List.flatMap_append, List.filterMap_append]

/-! ## Calls -/

/-- What is made of a result may as well be made of it once the configuration is gone. -/
theorem withConfig_bind {α β : Type} (b : Baseline) (tag : Act σ String) (rules : RuleSet)
    (act : String → Act σ α) (f : α → Except Fault β) :
    b.withConfig tag rules (fun name => act name >>= fun a => liftM (f a))
      = b.withConfig tag rules act >>= fun a => liftM (f a) := by
  -- the configuration is taken away behind the attempt, before its answer is looked at
  unfold withConfig
  simp only [attempt_bind_liftM, bind_assoc, pure_bind]
  refine bind_congr fun fresh => bind_congr fun _ => bind_congr fun r => bind_congr fun t =>
    bind_congr fun _ => ?_
  cases r with
  | error e => rfl
  | ok a =>
    rw [pure_bind]
    have hbind : (Except.ok a : Except Fault α).bind f = f a := rfl
    rw [hbind]
    cases f a with
    | ok b => rfl
    | error e => rfl

/-- To lint with a configuration is to make the call and to read what it printed. -/
theorem withConfig_lint (b : Baseline) (shell : Shell σ) (tag : Act σ String)
    {files : List String} (hfiles : files ≠ []) (rules : RuleSet) :
    b.withConfig tag rules (fun name => b.linter.lint shell files (some name) [])
      = b.call shell tag files rules >>= fun result => liftM (b.linter.readResult result) := by
  have hlint : (fun name => b.linter.lint shell files (some name) [])
      = fun name => shell (b.linter.call files (some name) [])
          >>= fun result => liftM (b.linter.readResult result) :=
    funext fun name => b.linter.lint_eq shell hfiles (some name) []
  rw [hlint, withConfig_bind]
  rfl

/-- Where the configuration can be written, a call ends as the linter does. -/
theorem settles_call {b : Baseline} {shell : Shell σ} {tag : Act σ String} {files : List String}
    {rules : RuleSet} {w w' v : World σ} {fresh : String} {t : Tree}
    {outcome : Except Fault CommandResult} (htag : Settles tag w (.ok fresh) w')
    (hwrite : w'.tree.write ((Path.absolute b.workspace).child (configName fresh))
      rules.render.toUTF8 = .ok t)
    (hshell : Settles (shell (b.linter.call files (some (configName fresh)) []))
      { w' with tree := t } outcome v) :
    Settles (b.call shell tag files rules) w outcome
      { v with tree := v.tree.remove ((Path.absolute b.workspace).child (configName fresh)) } := by
  unfold call withConfig
  refine htag.bind ((settles_changeTree hwrite).bind (hshell.attempt.bind ?_))
  refine settles_tree.bind ((settles_setTree _).bind ?_)
  cases outcome with
  | ok result => exact settles_pure result
  | error fault => exact settles_throw fault

/-! ## Passes -/

/-- What is read of an output that is legible, or a crash: the report, or a fault of the linter
in place of an empty one. -/
theorem readResult_foreseen {l : Linter} {result : CommandResult}
    (h : result.HasReport → result.IsLegible l.depth) :
    l.readResult result = .ok (reportOf l.depth (.ok result)) ∨
      reportOf l.depth (.ok result) = [] ∧
        ∃ cause, l.readResult result = .error (.lint cause) := by
  by_cases hreport : result.HasReport
  · have hcode : result.code = 0 ∨ result.code = 1 := hreport
    unfold reportOf
    dsimp only
    rw [if_pos hcode]
    cases hread : result.reported l.depth with
    | error fault =>
      right
      by_cases hmalformed : fault.isMalformed = true
      · exact ⟨rfl, _, Linter.readResult_malformed hreport hread hmalformed⟩
      · cases fault with
        | tooDeep inObject => exact absurd hread ((h hreport).shallow inObject)
        | syntaxAt | tooManyDigits => exact absurd rfl hmalformed
    | ok v =>
      cases v with
      | arr entries =>
        left
        rw [Linter.readResult_ok hreport hread]
        exact (LintFile.ofReport_readsJust entries).reads ((h hreport).entries entries hread)
      | null | bool | int | float | str | obj =>
        exact Or.inr ⟨rfl, _, Linter.readResult_notAList hreport hread (by simp)⟩
  · right
    unfold reportOf
    exact ⟨if_neg hreport, _, Linter.readResult_crashed hreport⟩

section Pass

variable {b : Baseline} {shell : Shell σ} {tag : Act σ String} {files : List String}
  {rules : RuleSet} {w v : World σ} {outcome : Except Fault CommandResult}
  (hfiles : files ≠ []) (hcall : Settles (b.call shell tag files rules) w outcome v)
include hfiles hcall

/-- A pass attempts a call and reads its output. -/
theorem settles_attempt :
    Settles (Act.attempt (b.withConfig tag rules fun name =>
      b.linter.lint shell files (some name) [])) w (.ok (outcome.bind b.linter.readResult)) v := by
  rw [withConfig_lint b shell tag hfiles rules]
  exact (hcall.bind_liftM b.linter.readResult).attempt

theorem settles_pass_reads {report : List LintFile}
    (hread : outcome.bind b.linter.readResult = .ok report) :
    Settles (b.pass shell tag files rules) w (.ok report) v := by
  have hattempt := settles_attempt hfiles hcall
  rw [hread] at hattempt
  exact hattempt.bind (settles_pure _)

theorem settles_pass_refuses {cause : LintFault}
    (hread : outcome.bind b.linter.readResult = .error (.lint cause)) :
    Settles (b.pass shell tag files rules) w (.ok []) v := by
  have hattempt := settles_attempt hfiles hcall
  rw [hread] at hattempt
  exact hattempt.bind ((settles_write _ _ _).bind (settles_pure []))

/-- Faults of the system are passed over, as those of the linter are, and all others end
the pass. -/
theorem settles_pass_fault {fault : Fault}
    (hread : outcome.bind b.linter.readResult = .error fault)
    (hother : ∀ cause, fault ≠ .lint cause) :
    Settles (b.pass shell tag files rules) w
      (if fault.isSystem then .ok [] else .error fault) v := by
  have hattempt := settles_attempt hfiles hcall
  rw [hread] at hattempt
  refine hattempt.bind ?_
  split
  · next heq => exact absurd heq (by simp)
  · next heq => exact absurd (Except.error.inj heq) (hother _)
  · next heq =>
    obtain rfl := Except.error.inj heq
    split
    · exact (settles_write _ _ _).bind (settles_pure [])
    · exact settles_throw _

/-- **A pass reports what its call printed**, and nothing if the call went wrong. -/
theorem settles_pass (h : IsForeseen b.depth outcome) :
    Settles (b.pass shell tag files rules) w (.ok (reportOf b.depth outcome)) v := by
  cases h with
  | ends result hlegible =>
    have hread : b.linter.readResult result = .ok (reportOf b.depth (.ok result)) ∨
        reportOf b.depth (.ok result) = [] ∧
          ∃ cause, b.linter.readResult result = .error (.lint cause) :=
      readResult_foreseen (l := b.linter) hlegible
    rcases hread with hread | ⟨hempty, cause, hread⟩
    · exact settles_pass_reads hfiles hcall hread
    · rw [hempty]
      exact settles_pass_refuses hfiles hcall hread
  | fails fault hsystem =>
    have hother : ∀ cause, fault ≠ .lint cause := by
      rintro cause rfl
      exact absurd hsystem Bool.false_ne_true
    have hpass := settles_pass_fault hfiles hcall rfl hother
    rwa [if_pos hsystem] at hpass

end Pass

/-- A pass that finds no linter to start fails. -/
theorem settles_pass_missing {b : Baseline} {shell : Shell σ} {tag : Act σ String}
    {files : List String} {rules : RuleSet} {w v : World σ} {executable : String}
    (hfiles : files ≠ [])
    (hcall : Settles (b.call shell tag files rules) w (.error (.programMissing executable)) v) :
    Settles (b.pass shell tag files rules) w (.error (.programMissing executable)) v :=
  settles_pass_fault hfiles hcall rfl (by simp)

/-! ## Findings -/

/-- The changed files that the built-in rules apply to. -/
def scripts (changes : ChangeMap) : List String := changes.sortedPaths.filter isScript

theorem scripts_ne_nil {changes : ChangeMap} {path : String} (hpath : path ∈ changes.paths)
    (hscript : isScript path = true) : scripts changes ≠ [] :=
  List.ne_nil_of_mem (List.mem_filter.mpr ⟨List.mem_mergeSort.mpr hpath, hscript⟩)

/-- What the built-in rules find, by what the passes end with. -/
def answerOf (b : Baseline) (changes : ChangeMap) :
    Except Fault (List LintFile) → Except Fault (List Finding)
  | .ok report => .ok (b.foundIn changes report)
  | .error (.programMissing _) => .ok []
  | .error fault => .error fault

section Findings

variable {b : Baseline} {shell : Shell σ} {tag : Act σ String} {changes : ChangeMap}
  {w w₁ w₂ : World σ}

theorem settles_passes {files : List String} {report : List LintFile}
    {r : Except Fault (List LintFile)}
    (hbase : Settles (b.pass shell tag files .base) w (.ok report) w₁)
    (htyped : Settles (b.pass shell tag files .typeAware) w₁ r w₂) :
    Settles (b.passes shell tag files true) w (r.map (report ++ ·)) w₂ := by
  unfold passes
  refine hbase.bind ?_
  cases r with
  | ok more => exact htyped.bind (settles_pure (report ++ more))
  | error fault => exact htyped.bind_error _

theorem settles_findings (hfiles : scripts changes ≠ []) {typed : Bool}
    (hproject : w.tree.probeFile ((Path.absolute b.workspace).child "tsconfig.json") = .ok typed)
    {r : Except Fault (List LintFile)}
    (hpasses : Settles (b.passes shell tag (scripts changes) typed) w r w₁) :
    Settles (b.findings shell tag changes) w (b.answerOf changes r) w₁ := by
  have hsome : (scripts changes).isEmpty = false := List.isEmpty_eq_false_iff.mpr hfiles
  unfold findings
  show Settles (if (scripts changes).isEmpty = true then _ else _) _ _ _
  rw [hsome, if_neg Bool.false_ne_true]
  refine (settles_probeFile hproject).bind ((settles_write _ _ _).bind ?_)
  refine hpasses.attempt.bind ?_
  cases r with
  | ok report => exact (settles_write _ _ _).bind (settles_pure _)
  | error fault =>
    cases fault with
    | programMissing => exact (settles_write _ _ _).bind (settles_pure [])
    | _ => exact settles_throw _

/-- **The passes are independent.** Let a script be changed, in a workspace with a project file
at its root, and let the calls of the two passes end in any ways, the second in the world that
the first left. If the ways are foreseen, the findings are those of the first report and then
those of the second, where a call that went wrong has an empty report. If the linter is missing
in a call there are no findings, and behind the first there is no second. -/
theorem findings_passes {path : String} (hpath : path ∈ changes.paths)
    (hscript : isScript path = true)
    (hproject : w.tree.probeFile ((Path.absolute b.workspace).child "tsconfig.json") = .ok true)
    {first : Except Fault CommandResult}
    (hbase : Settles (b.call shell tag (scripts changes) .base) w first w₁) :
    (∀ executable, first = .error (.programMissing executable) →
      Settles (b.findings shell tag changes) w (.ok []) w₁) ∧
    (IsForeseen b.depth first → ∀ second w₂,
      Settles (b.call shell tag (scripts changes) .typeAware) w₁ second w₂ →
        (IsForeseen b.depth second → Settles (b.findings shell tag changes) w
          (.ok (b.foundIn changes (reportOf b.depth first) ++
            b.foundIn changes (reportOf b.depth second))) w₂) ∧
        ∀ executable, second = .error (.programMissing executable) →
          Settles (b.findings shell tag changes) w (.ok []) w₂) := by
  have hfiles := scripts_ne_nil hpath hscript
  refine ⟨?_, fun hfirst second w₂ htyped => ⟨fun hsecond => ?_, ?_⟩⟩
  · rintro executable rfl
    exact settles_findings hfiles hproject ((settles_pass_missing hfiles hbase).bind_error _)
  · rw [← foundIn_append]
    exact settles_findings hfiles hproject
      (settles_passes (settles_pass hfiles hbase hfirst) (settles_pass hfiles htyped hsecond))
  · rintro executable rfl
    exact settles_findings hfiles hproject
      (settles_passes (settles_pass hfiles hbase hfirst) (settles_pass_missing hfiles htyped))

end Findings

/-! A workspace at the root of the tree, with a project file, and a shell that takes what it
answers from a list, whatever the command is. One line of a script is changed, and the first
call reports a problem on it. -/

/-- Calls end in the ways of a list, one after another; behind it no linter is there. -/
def scriptedShell : Shell (List (Except Fault CommandResult)) := fun _ =>
  Act.onOutside fun outcomes =>
    match outcomes with
    | outcome :: rest => (outcome, rest)
    | [] => (.error (.programMissing "npx"), [])

def rootBaseline : Baseline where
  workspace := []
  command := ["npx", "eslint"]

def projectEntries : List (String × Node) := [("tsconfig.json", .file .empty)]

def projectWorld (outside : σ) : World σ where
  outside := outside
  tree := ⟨.dir projectEntries, []⟩
  journal := {}

theorem hasDistinctNames_project : (Node.dir projectEntries).HasDistinctNames := by
  simp [projectEntries]

theorem isName_zero : Tree.IsName (configName "0") :=
  ⟨by decide +kernel, by decide +kernel, by decide +kernel⟩

theorem isFresh_zero : (Node.dir projectEntries).child? (configName "0") = none := by
  refine Node.child?_eq_none_iff.mpr (List.forall_mem_singleton.mpr ?_)
  decide +kernel

/-- A call ends as the linter does, and leaves the workspace as it was. -/
theorem settles_rootCall {shell : Shell σ} {files : List String} {s s' : σ}
    {outcome : Except Fault CommandResult} (rules : RuleSet)
    (hshell : ∀ t : Tree,
      Settles (shell (rootBaseline.linter.call files (some (configName "0")) []))
        { projectWorld s with tree := t } outcome { projectWorld s' with tree := t }) :
    Settles (rootBaseline.call shell (pure "0") files rules) (projectWorld s) outcome
      (projectWorld s') := by
  have hwrite := Tree.write_top isName_zero isFresh_zero rules.render.toUTF8
  have hremove := Tree.remove_write hasDistinctNames_project
    (Tree.isFree_top isName_zero isFresh_zero) hwrite
  have htag : Settles (pure "0") (projectWorld s) (.ok "0") (projectWorld s) := settles_pure "0"
  have hcall := settles_call (b := rootBaseline) htag hwrite (hshell _)
  have hback : ∀ t : Tree, t = ⟨.dir projectEntries, []⟩ →
      { projectWorld s' with tree := t } = projectWorld s' := by
    rintro t rfl
    rfl
  rw [← hback _ hremove]
  exact hcall

/-- A call takes the next way to end from the list. -/
theorem settles_scripted (outcome : Except Fault CommandResult)
    (rest : List (Except Fault CommandResult)) (files : List String) (rules : RuleSet) :
    Settles (rootBaseline.call scriptedShell (pure "0") files rules)
      (projectWorld (outcome :: rest)) outcome (projectWorld rest) :=
  settles_rootCall rules fun _ => settles_onOutside _

theorem probeFile_project :
    (Tree.mk (.dir projectEntries) []).probeFile
      ((Path.absolute rootBaseline.workspace).child "tsconfig.json") = .ok true :=
  Tree.probeFile_top ⟨by decide +kernel, by decide +kernel, by decide +kernel⟩ rfl

def lineFive : ChangeMap := ⟨[("a.js", [5])]⟩

def problemReport : CommandResult where
  code := 1
  stdout := "[\x7b\"filePath\": \"a.js\", \"messages\": [\x7b" ++
    "\"ruleId\": \"no-undef\", \"line\": 5\x7d]\x7d]"
  stderr := ""

def problemEntries : List Json := [.obj [("filePath", .str "a.js"),
  ("messages", .arr [.obj [("ruleId", .str "no-undef"), ("line", .int 5)]])]]

def problem : Finding where
  tool := "eslint"
  rule := "no-undef"
  severity := .warning
  file := "a.js"
  message := ""
  line := some 5

def crash : CommandResult := ⟨2, "", "no parser"⟩

theorem reported_problem :
    problemReport.reported rootBaseline.depth = .ok (.arr problemEntries) := by
  cbv

theorem isForeseen_problem : IsForeseen rootBaseline.depth (.ok problemReport) := by
  refine .ends _ fun _ => ⟨fun _ hdeep => ?_, fun entries hlist => ?_⟩
  · exact absurd (reported_problem.symm.trans hdeep) (by simp)
  · obtain rfl := Json.arr.inj (Except.ok.inj (reported_problem.symm.trans hlist))
    refine List.forall_mem_singleton.mpr fun path _ => ⟨LintFile.isIterable_arr _, ?_⟩
    exact List.forall_mem_singleton.mpr
      ⟨LintMessage.hasNumber_null, LintMessage.hasNumber_int 5, LintMessage.hasNumber_null⟩

theorem foundIn_problem :
    rootBaseline.foundIn lineFive (reportOf rootBaseline.depth (.ok problemReport)) = [problem] := by
  have hreport : reportOf rootBaseline.depth (.ok problemReport)
      = problemEntries.filterMap LintFile.shownBy := by
    unfold reportOf
    dsimp only
    rw [reported_problem]
    exact if_pos (Or.inr rfl)
  rw [hreport]
  decide +kernel

theorem exists_script : "a.js" ∈ lineFive.paths ∧ isScript "a.js" = true :=
  ⟨by decide, by decide +kernel⟩

theorem findings_passes_crash :
    Settles (rootBaseline.findings scriptedShell (pure "0") lineFive)
      (projectWorld [.ok problemReport, .ok crash]) (.ok [problem]) (projectWorld []) := by
  have hcrash : IsForeseen rootBaseline.depth (.ok crash) := .ends _ fun hreport => by
    rcases hreport with h | h <;> exact absurd h (by decide)
  have hbase := settles_scripted (.ok problemReport) [.ok crash] (scripts lineFive) .base
  have htyped := settles_scripted (.ok crash) [] (scripts lineFive) .typeAware
  obtain ⟨_, hforeseen⟩ :=
    findings_passes exists_script.1 exists_script.2 probeFile_project hbase
  have hfindings := (hforeseen isForeseen_problem _ _ htyped).1 hcrash
  rwa [foundIn_problem] at hfindings

/-- If the linter is missing in the second call, what the first one found is dropped. -/
theorem findings_lateMissing :
    Settles (rootBaseline.findings scriptedShell (pure "0") lineFive)
      (projectWorld [.ok problemReport, .error (.programMissing "npx")]) (.ok [])
      (projectWorld []) ∧
    rootBaseline.foundIn lineFive (reportOf rootBaseline.depth (.ok problemReport))
      ++ rootBaseline.foundIn lineFive
        (reportOf rootBaseline.depth (.error (.programMissing "npx"))) = [problem] := by
  have hfiles := scripts_ne_nil exists_script.1 exists_script.2
  refine ⟨settles_findings hfiles probeFile_project (settles_passes
    (settles_pass hfiles (settles_scripted _ _ _ _) isForeseen_problem)
    (settles_pass_missing hfiles (settles_scripted _ _ _ _))), ?_⟩
  rw [foundIn_problem]
  rfl

end Baseline

end PullReview
