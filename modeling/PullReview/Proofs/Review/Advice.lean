import PullReview.Proofs.Comments.Scripted
import PullReview.Proofs.Lint.Advice
import PullReview.Proofs.Lint.Passes
import PullReview.Proofs.Report.Order
import PullReview.Proofs.Review.ChangedLines

/-!
# The built-in rules are advice

The baseline runs behind all other analyzers, gives advice only and fails with ordinary
faults only. A review with it is set beside the review without it, in the same world. The
two are one run until the baseline starts. Behind it the findings differ by warnings at
the end, and these change neither the blocking findings nor what is asked of the comment
store, texts of summaries apart.

> `review_twin`: with the built-in rules and without them a review has the same blocking
> findings in the same order, the same verdict and message. And it asks for the same line
> comments, as long as the store gives the two reviews the same answers.

The summary is put first, and a review whose summary is refused asks for no line comments.
So a store that refuses long summaries may take that of the review without the built-in
rules and refuse the other one, which is longer by the advice (`lineComments_longSummary`).
-/

namespace PullReview

open Act Rehearsal

variable {σ : Type}

/-- An action that makes no use of the store, whatever uses there were before. -/
def LeavesUses {α : Type} (part : Part σ (List StoreCall)) (act : Act σ α) (P : α → Prop)
    (E : Fault → Prop) : Prop :=
  ∀ calls, Ends act (fun s => part.get s = calls) P E

/-! ## One analyzer more -/

theorem outcomes_append (changes : ChangeMap) (back : List (Analyzer σ)) :
    ∀ front : List (Analyzer σ),
      Analyzer.outcomes changes (front ++ back) = (do
        let first ← Analyzer.outcomes changes front
        let rest ← Analyzer.outcomes changes back
        return first ++ rest) := by
  intro front
  induction front with
  | nil => simp [Analyzer.outcomes]
  | cons a front ih => simp [Analyzer.outcomes, ih]

/-- The last analyzer runs when all others have ended. -/
theorem runAll_concat (changes : ChangeMap) (front : List (Analyzer σ)) (a : Analyzer σ) :
    Analyzer.runAll (front ++ [a]) changes = (do
      let first ← Analyzer.outcomes changes front
      let outcome ← Act.attempt (a.run changes)
      Analyzer.gather (first ++ [(a.name, outcome)])) := by
  unfold Analyzer.runAll
  rw [outcomes_append]
  simp [Analyzer.outcomes]

/-- Findings that differ by advice at the end. -/
def Advised (fs fs' : List Finding) : Prop := ∃ advice, AreAdvice advice ∧ fs = fs' ++ advice

theorem gather_together {R : σ → σ → Prop} {outcome : Except Fault (List Finding)}
    (h : Allowed AreAdvice Fault.Ordinary outcome) (name : String) :
    ∀ first : List (String × Except Fault (List Finding)),
      Together R Advised (Analyzer.gather (first ++ [(name, outcome)]) : Act σ (List Finding))
        (Analyzer.gather first) := by
  intro first
  induction first with
  | nil =>
    cases outcome with
    | ok warnings => exact together_pure ⟨warnings, h, List.append_nil warnings⟩
    | error fault =>
      have hordinary : fault.isOrdinary = true := h
      show Together R Advised (Analyzer.gather [(name, .error fault)]) (pure [])
      unfold Analyzer.gather
      rw [hordinary]
      refine Together.bind_left (fun t => ends_write _ _ _) fun _ _ => together_pure ?_
      exact ⟨[], areAdvice_nil, rfl⟩
  | cons o first ih =>
    obtain ⟨front, ended⟩ := o
    cases ended with
    | ok found =>
      simp only [List.cons_append, Analyzer.gather]
      refine ih.bind ?_
      rintro _ more ⟨warnings, hwarnings, rfl⟩
      exact together_pure ⟨warnings, hwarnings, (List.append_assoc ..).symm⟩
    | error fault =>
      simp only [List.cons_append, Analyzer.gather]
      split
      · exact together_throw fault
      · exact (together_write _ _ _ _ _ _).bind fun _ _ _ => ih

/-- An action that makes no use of the store of its own shows nothing of itself. -/
theorem LeavesUses.succeeds {α : Type} {part : Part σ (List StoreCall)} {act : Act σ α}
    {P : α → Prop} (h : LeavesUses part act P fun _ => False) (t : σ) :
    Succeeds act (SameOutline part · t) P := by
  intro w hw
  obtain ⟨hleft, hvalue⟩ := h (part.get w.outside) w rfl
  exact ⟨(congrArg (List.map StoreCall.outline) hleft).trans hw, hvalue⟩

/-- Two runs of it are no less together for it. -/
theorem LeavesUses.together {α : Type} {part : Part σ (List StoreCall)} {act : Act σ α}
    {P : α → Prop} (h : LeavesUses part act P fun _ => False) :
    Together (SameOutline part) (fun _ _ => True) act act := by
  intro w v hw
  obtain ⟨hleft, hvalue⟩ := h.succeeds v.outside w hw
  obtain ⟨hright, hvalue'⟩ := h (part.get v.outside) v rfl
  refine ⟨hleft.trans (congrArg (List.map StoreCall.outline) hright).symm, ?_⟩
  cases hx : (act.runOn w).1 with
  | error e => rw [hx] at hvalue; exact hvalue.elim
  | ok a =>
    cases hy : (act.runOn v).1 with
    | error e => rw [hy] at hvalue'; exact hvalue'.elim
    | ok b => exact trivial

/-- Nor do they see more uses. -/
theorem LeavesUses.endsAlike {α : Type} {part : Part σ (List StoreCall)} {script : StoreScript}
    {act : Act σ α} {P : α → Prop} (h : LeavesUses part act P fun _ => False) :
    EndsAlike part script (fun _ _ => True) act act := by
  have hmoves : Moves (MoreUses part) act := by
    intro s w hw
    have hleft := (h (part.get w.outside) w rfl).1
    show part.get s <+: part.get (act.runOn w).2.outside
    rw [hleft]
    exact hw
  exact h.together.hindsight hmoves hmoves

section Review

variable {part : Part σ (List StoreCall)}

theorem runAll_twin {changes : ChangeMap} (front : List (Analyzer σ)) {a : Analyzer σ}
    (ha : LeavesUses part (a.run changes) AreAdvice Fault.Ordinary) :
    Twin (SameOutline part) Advised (Analyzer.runAll (front ++ [a]) changes)
      (Analyzer.runAll front changes) := by
  rw [runAll_concat]
  refine Twin.bind_same SameOutline.refl _ fun first => Together.twin SameOutline.refl ?_
  have hattempt : LeavesUses part (Act.attempt (a.run changes))
      (Allowed AreAdvice Fault.Ordinary) fun _ => False := fun calls => (ha calls).attempt
  exact Together.bind_left hattempt.succeeds fun outcome houtcome =>
    gather_together houtcome a.name first

/-- The review with other analyzers. -/
def Pipeline.withAnalyzers (p : Pipeline σ) (analyzers : List (Analyzer σ)) : Pipeline σ :=
  { p with analyzers := analyzers }

/-- Two outcomes with the same blocking findings, in the same order, and the same verdict. -/
structure SameVerdict (o o' : Outcome) : Prop where
  blocking : o.result.blocking = o'.result.blocking
  passed : o.passed = o'.passed
  message : o.message = o'.message

theorem sameVerdict_outcome {r r' : ReviewResult} (h : r.blocking = r'.blocking) :
    SameVerdict r.outcome r'.outcome := by
  refine ⟨by rw [r.outcome_result, r'.outcome_result, h], ?_, ?_⟩
  · rw [r.outcome_passed, r'.outcome_passed, h]
  · unfold ReviewResult.outcome
    rw [h]
    split <;> rfl

/-- Advice does not show in the blocking findings of a result. -/
theorem Advised.blocking {fs fs' : List Finding} (h : Advised fs fs') :
    (ReviewResult.ofFindings fs).blocking = (ReviewResult.ofFindings fs').blocking := by
  obtain ⟨advice, hadvice, rfl⟩ := h
  exact ReviewResult.blocking_append_warnings (fun f hf => (hadvice f hf).1) fs'

/-- Findings that differ by advice are merged together, or neither of them is. -/
theorem Advised.merge_together {R : σ → σ → Prop} {fs fs' : List Finding} (h : Advised fs fs') :
    Together R (fun r r' => r.blocking = r'.blocking)
      (liftM (ReviewResult.merge fs) : Act σ ReviewResult)
      (liftM (ReviewResult.merge fs') : Act σ ReviewResult) := by
  have hblocking := h.blocking
  obtain ⟨advice, hadvice, rfl⟩ := h
  rw [ReviewResult.merge_append fun f hf => (hadvice f hf).2]
  cases hmerge : ReviewResult.merge fs' with
  | error fault => exact together_throw fault
  | ok r =>
    obtain ⟨-, rfl⟩ := ReviewResult.merge_eq_ok_iff.mp hmerge
    exact together_pure hblocking

variable {p : Pipeline σ} {context : RunContext}

/-- Behind the merging a review gives the outcome of its result, or nothing. -/
theorem Pipeline.conclude_returns (found : List Finding) :
    Returns (do
      let result ← liftM (ReviewResult.merge found)
      (logFor context).info <| s!"Aggregated findings: blocking={result.blocking.length}, " ++
        s!"warnings={result.warnings.length}"
      p.publish result context
      let outcome := result.outcome
      if outcome.passed then
        Logger.success {} outcome.message [("repository", context.repository)]
      return outcome : Act σ Outcome) (· = (ReviewResult.ofFindings found).outcome) := by
  have hmerge : Returns (liftM (ReviewResult.merge found) : Act σ ReviewResult)
      (· = ReviewResult.ofFindings found) :=
    returns_liftM fun r hr => (ReviewResult.merge_eq_ok_iff.mp hr).2
  refine hmerge.bind ?_
  rintro _ rfl
  refine returns_bind fun _ => returns_bind fun _ => ?_
  dsimp only
  split
  · exact returns_bind fun _ => returns_pure rfl
  · exact returns_pure rfl

section Clock

variable (hclock : LeavesUses part p.clock (fun _ => True) fun _ => False)
  {front : List (Analyzer σ)} {a : Analyzer σ} (hanalyzers : p.analyzers = front ++ [a])
include hclock hanalyzers

theorem reviewChanges_givesAlike {changes : ChangeMap}
    (ha : LeavesUses part (a.run changes) AreAdvice Fault.Ordinary) :
    GivesAlike (· = ·) SameVerdict (p.reviewChanges context changes)
      ((p.withAnalyzers front).reviewChanges context changes) := by
  have hfindings := runAll_twin front ha
  rw [← hanalyzers] at hfindings
  unfold Pipeline.reviewChanges
  refine GivesAlike.bind_same _ fun _ => ?_
  refine (Twin.timed hclock.together SameOutline.refl fun _ => hfindings).bind_gives ?_
  intro fs fs' hadvised
  refine GivesAlike.of_returns (Pipeline.conclude_returns fs) (Pipeline.conclude_returns fs') ?_
  rintro _ _ rfl rfl
  exact sameVerdict_outcome hadvised.blocking

end Clock

section Store

variable {script : StoreScript} (hpart : part.IsLawful)
  (hstore : ∀ store, p.store = some store → store = scriptedStore part script)
  (hclock : LeavesUses part p.clock (fun _ => True) fun _ => False)
include hpart hstore hclock

theorem publish_endsAlike (analyzers : List (Analyzer σ)) {result result' : ReviewResult}
    (h : result.blocking = result'.blocking) :
    EndsAlike part script (· = ·) (p.publish result context)
      ((p.withAnalyzers analyzers).publish result' context) := by
  unfold Pipeline.publish
  dsimp only [Pipeline.withAnalyzers]
  cases hp : p.store with
  | none => exact hindsight_write _ _ _ _ _ _
  | some store =>
    obtain rfl := hstore store hp
    dsimp only
    have hrun : ∀ l : Logger, EndsAlike part script (· = ·)
        (do
          let pr ← liftM context.pullRequest
          Reconcile.reconcile (scriptedStore part script) p.groupGap result pr)
        (do
          let pr ← liftM context.pullRequest
          Reconcile.reconcile (scriptedStore part script) p.groupGap result' pr) := fun _ =>
      EndsAlike.bind (hindsight_liftM _) fun pr => reconcile_endsAlike hpart p.groupGap h pr
    refine EndsAlike.bind (Hindsight.timed heldBefore_answeredAlike hclock.endsAlike hrun).attempt
      fun answer => ?_
    split
    · exact hindsight_write _ _ _ _ _ _
    · split
      · exact EndsAlike.bind (hindsight_throw _) fun _ => hindsight_write _ _ _ _ _ _
      · exact hindsight_write _ _ _ _ _ _

theorem reviewChanges_jointIf {front : List (Analyzer σ)} {a : Analyzer σ}
    (hanalyzers : p.analyzers = front ++ [a]) {changes : ChangeMap}
    (ha : LeavesUses part (a.run changes) AreAdvice Fault.Ordinary) :
    JointIf (AnsweredAlike part script) (· = ·) (SameOutline part) SameVerdict
      (p.reviewChanges context changes)
      ((p.withAnalyzers front).reviewChanges context changes) := by
  have hfindings := runAll_twin front ha
  rw [← hanalyzers] at hfindings
  unfold Pipeline.reviewChanges
  refine JointIf.bind_same SameOutline.refl _ fun _ => ?_
  refine (Twin.timed hclock.together SameOutline.refl fun _ => hfindings).bind_if ?_
  intro fs fs' hadvised
  refine hadvised.merge_together.bind_if fun result result' hblocking => ?_
  have hverdict := sameVerdict_outcome hblocking
  refine (together_write _ _ _ _ _ _).bind_if fun _ _ _ =>
    Hindsight.ends (EndsAlike.bind (publish_endsAlike hpart hstore hclock front hblocking)
      fun _ => ?_)
  dsimp only
  rw [hverdict.passed]
  split
  · exact EndsAlike.bind (hindsight_write _ _ _ _ _ _) fun _ => hindsight_pure hverdict
  · exact hindsight_pure hverdict

end Store

/-- **The built-in rules are advice.** Let the baseline be the last of the analyzers, and
let the others be any. Let the linter that the baseline starts do what it likes short of
an order to stop. Then the review and the review without the baseline, in one world, give
outcomes with the same blocking findings in the same order, the same verdict and the same
message, if both give one, whatever store there is.

Let the store, if there is one, answer by any script, and let it answer both reviews alike.
Then they both give such outcomes, or fail with the same fault, and behind both the same
line comments were asked for in the same order. -/
theorem review_twin (context : RunContext) (hpart : part.IsLawful)
    (hclock : LeavesUses part p.clock (fun _ => True) fun _ => False)
    {front : List (Analyzer σ)} {baseline : Baseline} {shell : Shell σ} {tag : Act σ String}
    (hanalyzers : p.analyzers = front ++ [⟨Baseline.tool, baseline.findings shell tag⟩])
    (hshell : ∀ command, LeavesUses part (shell command) (fun _ => True) Fault.Ordinary)
    (htag : LeavesUses part tag (fun _ => True) Fault.Ordinary) (w : World σ) :
    let advised := (p.review context).runOn w
    let plain := ((p.withAnalyzers front).review context).runOn w
    (∀ o o', advised.1 = .ok o → plain.1 = .ok o' → SameVerdict o o') ∧
    ∀ script, (∀ store, p.store = some store → store = scriptedStore part script) →
      AnswersAlike script (part.get advised.2.outside) (part.get plain.2.outside) →
      Agree SameVerdict (· = ·) advised.1 plain.1 ∧
        lineComments (part.get advised.2.outside) = lineComments (part.get plain.2.outside) := by
  have hbaseline : ∀ changes, LeavesUses part (baseline.findings shell tag changes) AreAdvice
      Fault.Ordinary := fun changes calls =>
    baseline.ends_findings (fun command => hshell command calls) (htag calls) changes
  constructor
  · -- both reviews give the outcome of their findings, if they give one
    have hgives : GivesAlike (· = ·) SameVerdict (p.review context)
        ((p.withAnalyzers front).review context) := by
      unfold Pipeline.review
      refine GivesAlike.bind_same _ fun base => GivesAlike.bind_same _ fun head => ?_
      refine GivesAlike.bind_same _ fun _ => GivesAlike.bind_same _ fun changes => ?_
      split
      · exact GivesAlike.bind_same _ fun _ => GivesAlike.of_returns (returns_pure rfl)
          (returns_pure rfl) fun _ _ ha hb => ha ▸ hb ▸ sameVerdict_outcome rfl
      · exact reviewChanges_givesAlike hclock hanalyzers (hbaseline changes)
    intro o o' ho ho'
    exact hgives w w rfl o _ o' _ (Prod.ext ho rfl) (Prod.ext ho' rfl)
  · -- up to the publishing the store is not used, and behind it the answers are alike
    intro script hstore halike
    have htwin : JointIf (AnsweredAlike part script) (· = ·) (SameOutline part) SameVerdict
        (p.review context) ((p.withAnalyzers front).review context) := by
      unfold Pipeline.review
      refine JointIf.bind_same SameOutline.refl _ fun base => ?_
      refine JointIf.bind_same SameOutline.refl _ fun head => ?_
      refine JointIf.bind_same SameOutline.refl _ fun _ => ?_
      refine JointIf.bind_same SameOutline.refl _ fun changes => ?_
      split
      · refine JointIf.bind_same SameOutline.refl _ fun _ => ?_
        exact (together_pure (sameVerdict_outcome rfl)).twin SameOutline.refl |>.jointIf
      · exact reviewChanges_jointIf hpart hstore hclock hanalyzers (hbaseline changes)
    obtain ⟨hleft, hagree⟩ := htwin w w rfl halike
    exact ⟨hagree, hleft.lineComments⟩

end Review

/-! ## Reviews step by step -/

section Steps

variable {p : Pipeline σ} {context : RunContext} {time : Double}
  (hclock : ∀ w, Settles p.clock w (.ok time) w) {w v u : World σ}
include hclock

/-- A review settles as its steps do: what was changed, what was found, and what became of the
comments. -/
theorem Pipeline.settles_review {base head : String} {changes : ChangeMap} {found : List Finding}
    {result : ReviewResult} (hbase : Pipeline.abbreviated context.base = .ok base)
    (hhead : Pipeline.abbreviated context.head = .ok head)
    (hchanges : Settles (Git.changeMap p.shell (some p.workspace) p.scope context.base.display
      context.head.display) w (.ok changes) w) (hsome : changes.isEmpty = false)
    (hfound : Settles (Analyzer.runAll p.analyzers changes) w (.ok found) v)
    (hmerge : ReviewResult.merge found = .ok result)
    (hpublish : Settles (p.publish result context) v (.ok ()) u) :
    Settles (p.review context) w (.ok result.outcome) u := by
  unfold Pipeline.review
  rw [hbase, hhead]
  refine (settles_pure base).bind ((settles_pure head).bind ((settles_write _ _ _).bind ?_))
  refine (Settles.timed hclock fun _ => hchanges).bind ?_
  rw [hsome, if_neg Bool.false_ne_true]
  unfold Pipeline.reviewChanges
  refine (settles_write _ _ _).bind ((Settles.timed hclock fun _ => hfound).bind ?_)
  rw [hmerge]
  refine (settles_pure result).bind ((settles_write _ _ _).bind (hpublish.bind ?_))
  dsimp only
  split
  · exact (settles_write _ _ _).bind (settles_pure _)
  · exact settles_pure _

omit hclock in
theorem Analyzer.settles_outcomes_cons {changes : ChangeMap} {a : Analyzer σ}
    {r : Except Fault (List Finding)} (h : Settles (a.run changes) w r v)
    {rest : List (Analyzer σ)} {outcomes : List (String × Except Fault (List Finding))}
    (hrest : Settles (Analyzer.outcomes changes rest) v (.ok outcomes) u) :
    Settles (Analyzer.outcomes changes (a :: rest)) w (.ok ((a.name, r) :: outcomes)) u :=
  h.attempt.bind (hrest.bind (settles_pure _))

/-- Where the review cannot bring the comments up to date it goes on without. -/
theorem Pipeline.settles_publish_error {store : CommentStore σ} (hstore : p.store = some store)
    {result : ReviewResult} {pr : PullRequest} (hpr : context.pullRequest = .ok pr)
    {fault : Fault} (hhosting : fault.isHosting = true)
    (hrun : Settles (Reconcile.reconcile store p.groupGap result pr) w (.error fault) v) :
    Settles (p.publish result context) w (.ok ()) v := by
  unfold Pipeline.publish
  rw [hstore, hpr]
  refine (Settles.timed hclock fun _ => (settles_pure pr).bind hrun).attempt.bind ?_
  dsimp only
  rw [hhosting]
  exact settles_write _ _ _

end Steps

/-- If the summary is refused as it is created, nothing more is asked for. -/
theorem settles_reconcile_refused {store : CommentStore σ} {gap : Int} {result : ReviewResult}
    {pr : PullRequest} {w v u : World σ} {fault : Fault}
    (hlist : Settles (store.issueComments pr) w (.ok []) v)
    (hcreate : Settles (store.createIssueComment pr (result.summary gap)) v (.error fault) u) :
    Settles (Reconcile.reconcile store gap result pr) w (.error fault) u := by
  have hupsert : Settles (Reconcile.upsertSummary store (result.summary gap) pr) w
      (.error fault) u :=
    hlist.bind <| (settles_liftM (.ok none)).bind <|
      (settles_write _ _ _).bind (hcreate.bind_error _)
  exact hupsert.bind_error _

/-! The project's linter finds a defect on the changed line. On the same line each pass of the
built-in rules finds a problem. -/

def lineFiveDiff : String :=
  "diff --git a/a.js b/a.js\n--- a/a.js\n+++ b/a.js\n@@ -4,0 +5 @@\n+let x\n"

/-- A shell with git and a linter that always reports the problem. -/
def problemShell : Shell (List StoreCall) := fun command =>
  if command.argv.head? = some "git" then return { code := 0, stdout := lineFiveDiff, stderr := "" }
  else return Baseline.problemReport

def defect : Finding where
  tool := ProjectLint.tool
  rule := "no-eval"
  severity := .blocking
  file := "a.js"
  message := "no"
  line := some 5

def problemPipeline (script : StoreScript) : Pipeline (List StoreCall) where
  workspace := .absolute []
  scope := {}
  groupGap := 3
  analyzers := [
    ⟨TypeCheck.tool, fun _ => return []⟩,
    ⟨ProjectLint.tool, fun _ => return [defect]⟩,
    ⟨Baseline.tool, Baseline.rootBaseline.findings problemShell (return "0")⟩]
  store := some (scriptedStore .whole script)
  shell := problemShell
  clock := return .nan

theorem problemShell_leavesUses (command : Command) :
    LeavesUses .whole (problemShell command) (fun _ => True) Fault.Ordinary := by
  intro calls
  unfold problemShell
  split <;> exact ends_pure trivial

/-- With a store that gives every use the same answer. -/
theorem review_twin_sameAnswer :
    let p := problemPipeline fun _ => .ok .null
    let advised := (p.review oneLineContext).runOn (Baseline.projectWorld [])
    let plain := ((p.withAnalyzers p.analyzers.dropLast).review oneLineContext).runOn
      (Baseline.projectWorld [])
    (∀ o o', advised.1 = .ok o → plain.1 = .ok o' → SameVerdict o o') ∧
      AnswersAlike (fun _ => .ok .null) advised.2.outside plain.2.outside ∧
      Agree SameVerdict (· = ·) advised.1 plain.1 ∧
      lineComments advised.2.outside = lineComments plain.2.outside := by
  intro p
  have hlast : p.analyzers = p.analyzers.dropLast ++
      [⟨Baseline.tool, Baseline.rootBaseline.findings problemShell (return "0")⟩] := rfl
  have hstore : ∀ store, p.store = some store → store = scriptedStore .whole fun _ => .ok .null :=
    fun _ h => (Option.some.inj h).symm
  have hpart : (Part.whole : Part (List StoreCall) _).IsLawful := fun _ _ => rfl
  have hclock : LeavesUses .whole p.clock (fun _ => True) fun _ => False :=
    fun _ => ends_pure trivial
  have htag : LeavesUses .whole (return "0" : Act (List StoreCall) String) (fun _ => True)
      Fault.Ordinary := fun _ => ends_pure trivial
  have htwin := review_twin (p := p) oneLineContext hpart hclock hlast
    problemShell_leavesUses htag (Baseline.projectWorld [])
  revert htwin
  -- the runs are not to be unfolded
  generalize (p.review oneLineContext).runOn (Baseline.projectWorld []) = advised
  generalize ((p.withAnalyzers p.analyzers.dropLast).review oneLineContext).runOn
    (Baseline.projectWorld []) = plain
  intro htwin
  have halike : AnswersAlike (fun _ => .ok .null) advised.2.outside plain.2.outside :=
    fun _ _ _ _ _ => rfl
  exact ⟨htwin.1, halike, htwin.2 _ hstore halike⟩

/-- Each pass finds the problem. -/
theorem settles_findings_problem :
    Settles (Baseline.rootBaseline.findings problemShell (pure "0") Baseline.lineFive)
      (Baseline.projectWorld []) (.ok [Baseline.problem, Baseline.problem])
      (Baseline.projectWorld []) := by
  have hcall : ∀ rules, Settles (Baseline.rootBaseline.call problemShell (pure "0")
      (Baseline.scripts Baseline.lineFive) rules) (Baseline.projectWorld [])
      (.ok Baseline.problemReport) (Baseline.projectWorld []) := by
    refine fun rules => Baseline.settles_rootCall rules fun t => ?_
    have hlints : problemShell (Baseline.rootBaseline.linter.call
        (Baseline.scripts Baseline.lineFive) (some (Baseline.configName "0")) [])
          = pure Baseline.problemReport :=
      if_neg (by simp [Linter.call, Linter.words, Baseline.linter, Baseline.rootBaseline])
    rw [hlints]
    exact settles_pure _
  have hfiles := Baseline.scripts_ne_nil Baseline.exists_script.1 Baseline.exists_script.2
  have hpass := fun rules => Baseline.settles_pass hfiles (hcall rules) Baseline.isForeseen_problem
  have hfindings := Baseline.settles_findings hfiles Baseline.probeFile_project
    (Baseline.settles_passes (hpass .base) (hpass .typeAware))
  simp only [Baseline.answerOf, Except.map, Baseline.foundIn_append, Baseline.foundIn_problem]
    at hfindings
  exact hfindings

/-- A store that refuses summaries of more bytes than a limit. -/
def shortSummaries (limit : Nat) : StoreScript := fun calls =>
  match calls.getLast? with
  | some (.createIssueComment body) =>
    if limit < body.utf8ByteSize then .error (.api ⟨"Validation Failed", 422, .null⟩)
    else .ok .null
  | _ => .ok (.arr [])

theorem settles_scriptedUse {script : StoreScript} (calls : List StoreCall) (call : StoreCall) :
    Settles (scriptedUse .whole script call) (Baseline.projectWorld calls)
      (script (calls ++ [call])) (Baseline.projectWorld (calls ++ [call])) :=
  settles_onOutside fun calls => (script (calls ++ [call]), calls ++ [call])

theorem shortSummaries_long {limit : Nat} {body : String} (h : limit < body.utf8ByteSize) :
    shortSummaries limit [.listIssueComments, .createIssueComment body]
      = .error (.api ⟨"Validation Failed", 422, .null⟩) :=
  if_pos h

/-- With the problems of the built-in rules. -/
def longResult : ReviewResult where
  blocking := [defect]
  warnings := [Baseline.problem]
  all := [defect, Baseline.problem]

theorem merge_problem :
    ReviewResult.merge ([] ++ ([defect] ++ ([Baseline.problem, Baseline.problem] ++ [])))
      = .ok longResult := by
  have hdistinct : ReviewResult.distinct [defect, Baseline.problem, Baseline.problem] []
      = [defect, Baseline.problem] := by decide +kernel
  have hsorted : [defect, Baseline.problem].Pairwise (Finding.precedes · ·) := by decide +kernel
  have hresult : ReviewResult.ofFindings [defect, Baseline.problem, Baseline.problem]
      = longResult := by
    unfold ReviewResult.ofFindings
    rw [hdistinct, List.mergeSort_of_pairwise hsorted]
    rfl
  exact ReviewResult.merge_eq_ok_iff.mpr ⟨by decide +kernel, hresult.symm⟩

theorem isLong_summary : 200 < (longResult.summary 3).utf8ByteSize := by decide +kernel

/-- The summary with the problems is refused, and the line comment is never asked for. -/
theorem settles_review_problem :
    Settles ((problemPipeline (shortSummaries 200)).review oneLineContext)
      (Baseline.projectWorld []) (.ok longResult.outcome)
      (Baseline.projectWorld [.listIssueComments, .createIssueComment (longResult.summary 3)]) := by
  let script := shortSummaries 200
  have hclock : ∀ w, Settles (problemPipeline script).clock w (.ok .nan) w :=
    fun _ => settles_pure _
  have hdiff : ChangeMap.ofDiff {} lineFiveDiff = .ok Baseline.lineFive := by decide +kernel
  have hchanges : Settles (Git.changeMap problemShell (some (.absolute [])) {} "main" "topic")
      (Baseline.projectWorld []) (.ok Baseline.lineFive) (Baseline.projectWorld []) := by
    have hgit : Settles (Git.output problemShell (some (.absolute [])) "diff"
        ["-U0", "--no-color", Git.range "main" "topic"]) (Baseline.projectWorld [])
        (.ok lineFiveDiff) (Baseline.projectWorld []) :=
      (settles_pure _).attempt.bind (settles_pure _)
    unfold Git.changeMap
    refine (settles_write _ _ _).bind (hgit.bind ?_)
    rw [hdiff]
    exact (settles_write _ _ _).bind (settles_pure _)
  have hfound : Settles (Analyzer.runAll (problemPipeline script).analyzers Baseline.lineFive)
      (Baseline.projectWorld [])
      (.ok ([] ++ ([defect] ++ ([Baseline.problem, Baseline.problem] ++ []))))
      (Baseline.projectWorld []) := by
    have hnone : Settles (Analyzer.outcomes (σ := List StoreCall) Baseline.lineFive [])
        (Baseline.projectWorld []) (.ok []) (Baseline.projectWorld []) := settles_pure []
    have hbaseline := Analyzer.settles_outcomes_cons
      (a := ⟨Baseline.tool, Baseline.rootBaseline.findings problemShell (return "0")⟩)
      settles_findings_problem hnone
    have hlint := Analyzer.settles_outcomes_cons
      (a := ⟨ProjectLint.tool, fun _ => return [defect]⟩) (settles_pure [defect]) hbaseline
    have htypes := Analyzer.settles_outcomes_cons
      (a := ⟨TypeCheck.tool, fun _ => return []⟩) (settles_pure []) hlint
    exact htypes.bind (settles_pure _)
  have hlist : ∀ pr, Settles ((scriptedStore .whole script).issueComments pr)
      (Baseline.projectWorld []) (.ok []) (Baseline.projectWorld [.listIssueComments]) := by
    intro pr
    unfold scriptedStore
    rw [← bind_pure_comp]
    exact (settles_scriptedUse _ _).bind (settles_pure _)
  have hcreate : ∀ pr, Settles
      ((scriptedStore .whole script).createIssueComment pr (longResult.summary 3))
      (Baseline.projectWorld [.listIssueComments]) (.error (.api ⟨"Validation Failed", 422, .null⟩))
      (Baseline.projectWorld [.listIssueComments, .createIssueComment (longResult.summary 3)]) := by
    intro pr
    rw [← shortSummaries_long isLong_summary]
    exact settles_scriptedUse [.listIssueComments] _
  exact Pipeline.settles_review hclock rfl rfl hchanges rfl hfound merge_problem <|
    Pipeline.settles_publish_error hclock rfl rfl rfl
      (settles_reconcile_refused (hlist _) (hcreate _))

/-- With the built-in rules the summary is too long, and no line comment is asked for. Without
them it is taken, and the blocking finding gets its line comment. -/
theorem lineComments_longSummary :
    let p := problemPipeline (shortSummaries 200)
    let advised := (p.review oneLineContext).runOn (Baseline.projectWorld [])
    let plain := ((p.withAnalyzers p.analyzers.dropLast).review oneLineContext).runOn
      (Baseline.projectWorld [])
    p.analyzers.map (·.name) = [TypeCheck.tool, ProjectLint.tool, Baseline.tool] ∧
      advised.1.toOption.map (·.passed) = some false ∧
      plain.1.toOption.map (·.passed) = some false ∧
      (lineComments advised.2.outside).map (fun c => (c.path, c.line)) = [] ∧
      (lineComments plain.2.outside).map (fun c => (c.path, c.line)) = [("a.js", 5)] := by
  intro p
  have hplain : (((p.withAnalyzers p.analyzers.dropLast).review oneLineContext).runOn
      (Baseline.projectWorld [])).1.toOption.map (·.passed) = some false ∧
      (lineComments (((p.withAnalyzers p.analyzers.dropLast).review oneLineContext).runOn
        (Baseline.projectWorld [])).2.outside).map (fun c => (c.path, c.line)) = [("a.js", 5)] := by
    decide +kernel
  obtain ⟨w, hadvised, hscene⟩ := settles_review_problem (Baseline.projectWorld []) ⟨rfl, rfl⟩
  have hnone : (lineComments w.outside).map (fun c => (c.path, c.line)) = [] := by
    rw [hscene.outside]
    rfl
  rw [hadvised]
  exact ⟨rfl, rfl, hplain.1, hnone, hplain.2⟩

end PullReview
