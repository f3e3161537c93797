import Mathlib.Data.List.Forall2
import PullReview.Proofs.Lint.Passes
import PullReview.Proofs.Tree.Written
import PullReview.Proofs.World.Recorded

/-!
# No leftovers

The built-in rules are applied by configurations that are written into the workspace. Each of
them is there for one call of the linter and for no longer.

> `findings_noLeftovers`: however its calls end, with a fault or without, applying the built-in
> rules leaves the files as they were. In each call there is one more file, the configuration
> that the call names, with the rules of the pass.

The names of the configurations have to be fresh (`DrawsFresh`). A configuration that cannot be
written leaves no file, and its pass makes no call (`Makes`). Where there is room, both passes
make their calls, unless the run is over with the first of them (`EndsPass`).
-/

namespace PullReview.Baseline

open Act

variable {b : Baseline} {t : Tree} {files : List String} {tag : Act (List CallRecord) String}

/-- The path of a configuration in the workspace. -/
def configPath (b : Baseline) (name : String) : Path := (Path.absolute b.workspace).child name

/-- Drawing a tag gives a name under which there is no file, and does nothing else. -/
def DrawsFresh (b : Baseline) (tag : Act (List CallRecord) String) (t : Tree) : Prop :=
  ∀ w : World (List CallRecord), w.tree = t →
    ∃ fresh, Settles tag w (.ok fresh) w ∧ t.IsFree (b.configPath (configName fresh))

/-- There is room for a configuration under each name that is drawn. -/
def HasRoom (b : Baseline) (tag : Act (List CallRecord) String) (t : Tree) : Prop :=
  ∀ w : World (List CallRecord), w.tree = t → ∀ fresh, Settles tag w (.ok fresh) w →
    ∀ content, ∃ t', t.write (b.configPath (configName fresh)) content = .ok t'

/-- A call of a pass: the linter is told the files, and the name of a configuration in the
directory where it is started. This configuration is the one file that there is more than in
the workspace before, and it holds the rules. -/
structure IsCall (b : Baseline) (t : Tree) (files : List String) (rules : RuleSet)
    (call : CallRecord) : Prop where
  directory : call.command.directory = some (.absolute b.workspace)
  config : ∃ name, call.command.argv =
      b.command ++ ["--format", "json", "--no-error-on-unmatched-pattern", "--config", name, "--"]
        ++ files ∧
    t.AddsFile call.tree (b.configPath name) rules.render.toUTF8

/-- What a pass makes: its call, or none, since there is no room for its configuration. -/
inductive Makes (b : Baseline) (tag : Act (List CallRecord) String) (t : Tree)
    (files : List String) (rules : RuleSet) : List RuleSet → List CallRecord → Prop
  | call {call : CallRecord} : b.IsCall t files rules call → Makes b tag t files rules [rules] [call]
  | none : ¬ b.HasRoom tag t → Makes b tag t files rules [] []

/-- A call ends its pass and not the run: what it printed is read or is a fault of the linter,
or it failed in the system. -/
inductive EndsPass (b : Baseline) (outcome : Except Fault CommandResult) : Prop
  | reads (report : List LintFile) :
      outcome.bind b.linter.readResult = .ok report → EndsPass b outcome
  | refuses (cause : LintFault) :
      outcome.bind b.linter.readResult = .error (.lint cause) → EndsPass b outcome
  | fails (fault : Fault) :
      outcome.bind b.linter.readResult = .error fault → fault.isSystem = true → EndsPass b outcome

section Makes

variable {rules : RuleSet} {made : List RuleSet} {calls : List CallRecord}

theorem Makes.areCalls (h : Makes b tag t files rules made calls) :
    List.Forall₂ (b.IsCall t files) made calls := by
  cases h with
  | call hcall => exact .cons hcall .nil
  | none => exact .nil

theorem Makes.sublist (h : Makes b tag t files rules made calls) : made.Sublist [rules] := by
  cases h with
  | call => exact List.Sublist.refl _
  | none => exact List.nil_sublist _

theorem Makes.eq_of_hasRoom (h : Makes b tag t files rules made calls) (hroom : b.HasRoom tag t) :
    made = [rules] := by
  cases h with
  | call => rfl
  | none hfull => exact absurd hroom hfull

end Makes

section Pass

variable (hdistinct : t.root.HasDistinctNames) (hfresh : b.DrawsFresh tag t)
  (answer : List CallRecord → Command → Tree → Except Fault CommandResult)
  {w : World (List CallRecord)} (hw : w.tree = t)
include hdistinct hfresh hw

/-- The call of a pass finds the configuration, and what was written for it is gone again. -/
theorem exists_makes_call (files : List String) (rules : RuleSet) :
    ∃ outcome made calls, Makes b tag t files rules made calls ∧
      CallRecord.AreAnswered answer w.outside calls ∧
      (∀ call ∈ calls.head?, call.outcome = outcome) ∧
      Settles (b.call (Shell.recorded answer) tag files rules) w outcome
        { w with outside := w.outside ++ calls } := by
  subst hw
  obtain ⟨fresh, htag, hfree⟩ := hfresh w rfl
  cases hwrite : w.tree.write (b.configPath (configName fresh)) rules.render.toUTF8 with
  | error cause =>
    have hfull : ¬ b.HasRoom tag w.tree := by
      intro hroom
      obtain ⟨t', hwritten⟩ := hroom w rfl fresh htag rules.render.toUTF8
      rw [hwrite] at hwritten
      exact absurd hwritten (by simp)
    refine ⟨.error (.file cause), [], [], .none hfull, trivial, fun _ h => absurd h (by simp), ?_⟩
    rw [List.append_nil]
    exact htag.bind (Settles.bind_error (settles_changeTree_error hwrite) _)
  | ok t' =>
    have hcall := settles_call htag hwrite
      (settles_recorded answer (b.linter.call files (some (configName fresh)) []) _)
    have hgone : t'.remove ((Path.absolute b.workspace).child (configName fresh)) = w.tree :=
      Tree.remove_write hdistinct hfree hwrite
    dsimp only at hcall
    rw [hgone] at hcall
    refine ⟨_, [rules], [_], .call ?_, ⟨rfl, trivial⟩, fun call h => ?_, hcall⟩
    · refine ⟨rfl, configName fresh, ?_, Tree.addsFile_write hfree hwrite⟩
      simp [Linter.call, Linter.words, linter]
    · rw [← Option.some.inj h]

/-- A pass makes its call and no other, and whether the run goes on shows in how it ends. -/
theorem exists_makes_pass (hfiles : files ≠ []) (rules : RuleSet) :
    ∃ r made calls, Makes b tag t files rules made calls ∧
      CallRecord.AreAnswered answer w.outside calls ∧
      ((∀ call ∈ calls.head?, b.EndsPass call.outcome) → made ≠ [] → ∃ report, r = .ok report) ∧
      Settles (b.pass (Shell.recorded answer) tag files rules) w r
        { w with outside := w.outside ++ calls } := by
  obtain ⟨outcome, made, calls, hmakes, hanswered, houtcome, hcall⟩ :=
    exists_makes_call hdistinct hfresh answer hw files rules
  obtain ⟨r, hends, hpass⟩ : ∃ r, (b.EndsPass outcome → ∃ report, r = .ok report) ∧
      Settles (b.pass (Shell.recorded answer) tag files rules) w r
        { w with outside := w.outside ++ calls } := by
    cases hread : outcome.bind b.linter.readResult with
    | ok report => exact ⟨_, fun _ => ⟨report, rfl⟩, settles_pass_reads hfiles hcall hread⟩
    | error fault =>
      by_cases hlint : ∃ cause, fault = .lint cause
      · obtain ⟨cause, rfl⟩ := hlint
        exact ⟨_, fun _ => ⟨[], rfl⟩, settles_pass_refuses hfiles hcall hread⟩
      · have hother : ∀ cause, fault ≠ .lint cause := fun cause h => hlint ⟨cause, h⟩
        refine ⟨_, fun hgoes => ⟨[], ?_⟩, settles_pass_fault hfiles hcall hread hother⟩
        cases hgoes with
        | reads _ h => exact absurd (hread.symm.trans h) (by simp)
        | refuses cause h => exact absurd (Except.error.inj (hread.symm.trans h)) (hother cause)
        | fails fault' h hsystem =>
          obtain rfl := Except.error.inj (hread.symm.trans h)
          exact if_pos hsystem
  refine ⟨r, made, calls, hmakes, hanswered, fun hgoes hmade => ?_, hpass⟩
  cases hmakes with
  | call => exact hends (houtcome _ rfl ▸ hgoes _ rfl)
  | none => exact absurd rfl hmade

/-- The base rules come first, and with types there is a second pass, unless the run is over. -/
theorem exists_made_passes (hfiles : files ≠ []) (typed : Bool) {plan : List RuleSet}
    (hplan : plan = if typed then [.base, .typeAware] else [.base]) :
    ∃ r made calls, List.Forall₂ (b.IsCall t files) made calls ∧
      CallRecord.AreAnswered answer w.outside calls ∧ made.Sublist plan ∧
      (b.HasRoom tag t → RuleSet.base ∈ made ∧
        ((∀ call ∈ calls.head?, b.EndsPass call.outcome) → made = plan)) ∧
      Settles (b.passes (Shell.recorded answer) tag files typed) w r
        { w with outside := w.outside ++ calls } := by
  obtain ⟨r, made, calls, hmakes, hanswered, hgoes, hpass⟩ :=
    exists_makes_pass hdistinct hfresh answer hw hfiles .base
  have hbase : b.HasRoom tag t → RuleSet.base ∈ made := fun hroom =>
    hmakes.eq_of_hasRoom hroom ▸ List.mem_singleton_self _
  cases r with
  | error fault =>
    have hfirst : [RuleSet.base].Sublist plan := by
      rw [hplan]
      cases typed with
      | true => exact List.sublist_append_left [RuleSet.base] [RuleSet.typeAware]
      | false => exact List.Sublist.refl _
    refine ⟨_, made, calls, hmakes.areCalls, hanswered, hmakes.sublist.trans hfirst,
      fun hroom => ⟨hbase hroom, fun hend => ?_⟩, hpass.bind_error _⟩
    obtain ⟨report, h⟩ := hgoes hend (List.ne_nil_of_mem (hbase hroom))
    exact absurd h (by simp)
  | ok report =>
    cases typed with
    | false =>
      obtain rfl : plan = [.base] := hplan
      exact ⟨_, made, calls, hmakes.areCalls, hanswered, hmakes.sublist,
        fun hroom => ⟨hbase hroom, fun _ => hmakes.eq_of_hasRoom hroom⟩,
        hpass.bind (settles_pure report)⟩
    | true =>
      obtain rfl : plan = [RuleSet.base] ++ [RuleSet.typeAware] := hplan
      obtain ⟨r', made', calls', hmakes', hanswered', -, hpass'⟩ :=
        exists_makes_pass hdistinct hfresh answer (w := { w with outside := w.outside ++ calls })
          hw hfiles .typeAware
      refine ⟨r'.map (report ++ ·), made ++ made', calls ++ calls',
        List.rel_append hmakes.areCalls hmakes'.areCalls,
        CallRecord.areAnswered_append hanswered hanswered', hmakes.sublist.append hmakes'.sublist,
        fun hroom => ⟨List.mem_append_left _ (hbase hroom), fun _ => ?_⟩, ?_⟩
      · rw [hmakes.eq_of_hasRoom hroom, hmakes'.eq_of_hasRoom hroom]
      · rw [← List.append_assoc]
        exact settles_passes hpass hpass'

end Pass

/-! ## The whole run -/

def projectPath (b : Baseline) : Path := (Path.absolute b.workspace).child "tsconfig.json"

/-- The passes in their order: the one that needs types only beside a project file. -/
def passesIn (b : Baseline) (t : Tree) : List RuleSet :=
  if t.isFile b.projectPath then [.base, .typeAware] else [.base]

/-- **No leftovers.** However the calls of the linter end, and with a fault or without, applying
the built-in rules leaves the very files there were. In each call there is one file more, the
configuration that the call names, and it holds the rules of the pass: first the base rules, and
then, if there is a project file in the workspace, those that need types. To a change of scripts
in a workspace with room for a configuration the base rules are applied, and behind a call that
does not end the run all the others. -/
theorem findings_noLeftovers (b : Baseline)
    (answer : List CallRecord → Command → Tree → Except Fault CommandResult)
    {tag : Act (List CallRecord) String} (changes : ChangeMap) (w : World (List CallRecord))
    (hdistinct : w.tree.root.HasDistinctNames) (hfresh : b.DrawsFresh tag w.tree) :
    ∃ r v made calls,
      (b.findings (Shell.recorded answer) tag changes).runOn w = (r, v) ∧ v.tree = w.tree ∧
      v.outside = w.outside ++ calls ∧
      List.Forall₂ (b.IsCall w.tree (scripts changes)) made calls ∧
      CallRecord.AreAnswered answer w.outside calls ∧
      made.Sublist (b.passesIn w.tree) ∧
      (scripts changes ≠ [] → (∃ found, w.tree.probeFile b.projectPath = .ok found) →
        b.HasRoom tag w.tree → RuleSet.base ∈ made ∧
          ((∀ call ∈ calls.head?, b.EndsPass call.outcome) → made = b.passesIn w.tree)) := by
  suffices h : ∃ r made calls, List.Forall₂ (b.IsCall w.tree (scripts changes)) made calls ∧
      CallRecord.AreAnswered answer w.outside calls ∧ made.Sublist (b.passesIn w.tree) ∧
      (scripts changes ≠ [] → (∃ found, w.tree.probeFile b.projectPath = .ok found) →
        b.HasRoom tag w.tree → RuleSet.base ∈ made ∧
          ((∀ call ∈ calls.head?, b.EndsPass call.outcome) → made = b.passesIn w.tree)) ∧
      Settles (b.findings (Shell.recorded answer) tag changes) w r
        { w with outside := w.outside ++ calls } by
    obtain ⟨r, made, calls, hcalls, hanswered, hmade, hall, hsettles⟩ := h
    obtain ⟨v, hrun, hv⟩ := hsettles w ⟨rfl, rfl⟩
    exact ⟨r, v, made, calls, hrun, hv.tree, hv.outside, hcalls, hanswered, hmade, hall⟩
  have hstill : { w with outside := w.outside ++ [] } = w := by rw [List.append_nil]
  unfold findings
  by_cases hfiles : scripts changes = []
  · refine ⟨.ok [], [], [], .nil, trivial, List.nil_sublist _, fun h => absurd hfiles h, ?_⟩
    show Settles (if (scripts changes).isEmpty = true then _ else _) _ _ _
    rw [if_pos (List.isEmpty_iff.mpr hfiles), hstill]
    exact settles_pure []
  cases hprobe : w.tree.probeFile b.projectPath with
  | error cause =>
    refine ⟨.error (.file cause), [], [], .nil, trivial, List.nil_sublist _,
      fun _ ⟨_, h⟩ => absurd h (by simp), ?_⟩
    have hfault := settles_probe (w := w) b.projectPath
    rw [hprobe] at hfault
    show Settles (if (scripts changes).isEmpty = true then _ else _) _ _ _
    rw [if_neg fun h => hfiles (List.isEmpty_iff.mp h), hstill]
    exact hfault.bind_error _
  | ok typed =>
    have hplan : b.passesIn w.tree = if typed then [.base, .typeAware] else [.base] := by
      unfold passesIn
      rw [Tree.isFile_of_probeFile hprobe]
    obtain ⟨r, made, calls, hcalls, hanswered, hmade, hall, hpasses⟩ :=
      exists_made_passes hdistinct hfresh answer rfl hfiles typed hplan
    exact ⟨_, made, calls, hcalls, hanswered, hmade, fun _ _ => hall,
      settles_findings hfiles hprobe hpasses⟩

/-- The first call crashes, and the next one is broken off. -/
def brokenOff : List CallRecord → Command → Tree → Except Fault CommandResult
  | [], _, _ => .ok crash
  | _, _, _ => .error (.outside .interruption "CancelledError" "")

theorem findings_noLeftovers_brokenOff :
    ∃ r v calls, (rootBaseline.findings (Shell.recorded brokenOff) (pure "0") lineFive).runOn
        ⟨[], ⟨.dir projectEntries, []⟩, {}⟩ = (r, v) ∧
      v.tree = ⟨.dir projectEntries, []⟩ ∧ v.outside = calls ∧
      List.Forall₂ (rootBaseline.IsCall ⟨.dir projectEntries, []⟩ ["a.js"])
        [.base, .typeAware] calls := by
  have hfresh : rootBaseline.DrawsFresh (pure "0") ⟨.dir projectEntries, []⟩ := fun w _ =>
    ⟨"0", settles_pure "0", Tree.isFree_top isName_zero isFresh_zero⟩
  have hroom : rootBaseline.HasRoom (pure "0") ⟨.dir projectEntries, []⟩ := by
    intro w _ fresh hdrawn content
    obtain rfl : "0" = fresh := Except.ok.inj hdrawn.runOn
    exact ⟨_, Tree.write_top isName_zero isFresh_zero content⟩
  obtain ⟨r, v, made, calls, hrun, htree, houtside, hcalls, hanswered, -, hmade⟩ :=
    findings_noLeftovers rootBaseline brokenOff lineFive ⟨[], ⟨.dir projectEntries, []⟩, {}⟩
      hasDistinctNames_project hfresh
  have hfiles : scripts lineFive = ["a.js"] := by decide +kernel
  rw [hfiles] at hcalls hmade
  have hproject : (⟨.dir projectEntries, []⟩ : Tree).probeFile rootBaseline.projectPath
      = .ok true := probeFile_project
  obtain ⟨-, hall⟩ := hmade (by simp) ⟨true, hproject⟩ hroom
  have hcrash : ∀ call ∈ calls.head?, rootBaseline.EndsPass call.outcome := by
    intro call hcall
    cases calls with
    | nil => exact absurd hcall (by simp)
    | cons first rest =>
      obtain rfl := Option.some.inj hcall
      rw [hanswered.1]
      exact .refuses (.crashed 2 "no parser") rfl
  have hpasses : made = [.base, .typeAware] := by
    rw [hall hcrash, passesIn]
    dsimp only
    rw [Tree.isFile_of_probeFile hproject]
    rfl
  exact ⟨r, v, calls, hrun, htree, houtside, hpasses ▸ hcalls⟩

end PullReview.Baseline
