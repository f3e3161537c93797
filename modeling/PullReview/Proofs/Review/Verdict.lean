import PullReview.Proofs.Review.Publishing

/-!
# What the verdict is taken on

The analyzers that end with findings are gathered in their order, those that end with
a fault give nothing (`gather_returns`). Of findings that are the same the first stays,
so it is the first that speaks for all of them:

> `review_passed_iff`: a review fails if and only if some blocking finding is the first
> of its kind among all that the analyzers returned.

A blocking finding behind a warning that is the same does not fail a review, and a finding on
a line that cannot be written leaves it without a verdict (`review_passes_behindWarning`).
-/

namespace PullReview

open Act

variable {σ : Type}

/-- The findings of the analyzers that ended with findings, in order. -/
def Analyzer.returned (outcomes : List (String × Except Fault (List Finding))) : List Finding :=
  outcomes.flatMap fun o => o.2.toOption.getD []

/-- Gathering gives the findings that were returned, or obeys an order to stop. -/
theorem gather_returns :
    ∀ outcomes : List (String × Except Fault (List Finding)),
      Returns (Analyzer.gather outcomes : Act σ (List Finding))
        (· = Analyzer.returned outcomes) := by
  intro outcomes
  induction outcomes with
  | nil => exact returns_pure rfl
  | cons o rest ih =>
    obtain ⟨name, outcome⟩ := o
    cases outcome with
    | ok found =>
      unfold Analyzer.gather
      refine ih.bind fun more hmore => returns_pure ?_
      rw [hmore]
      rfl
    | error fault =>
      unfold Analyzer.gather
      split
      · exact returns_throw fault
      · exact returns_bind fun _ => ih

/-! ## Up to the analyzers -/

/-- What is done before an action that is measured. -/
def Logger.opening (log : Logger) (clock : Act σ Double) (operation : String) : Act σ Unit := do
  let _ ← clock
  (log.bind []).debug s!"Starting {operation}"

/-- A measured action that gives a value gives it behind its opening. -/
theorem runOn_timed_ok {α : Type} {log : Logger} {clock : Act σ Double} {operation : String}
    {body : Logger → Act σ α} {w w' : World σ} {a : α}
    (h : (log.timed clock operation [] body).runOn w = (.ok a, w')) :
    ∃ v v', (log.opening clock operation).runOn w = (.ok (), v) ∧
      (body (log.bind [])).runOn v = (.ok a, v') := by
  unfold Logger.timed at h
  obtain ⟨start, w₁, hclock, h⟩ := runOn_bind_eq_ok.mp h
  obtain ⟨_, v, hstarting, h⟩ := runOn_bind_eq_ok.mp h
  obtain ⟨r, v', hbody, h⟩ := runOn_bind_eq_ok.mp h
  refine ⟨v, v', (runOn_bind_ok hclock).trans hstarting, ?_⟩
  rw [runOn_attempt] at hbody
  obtain ⟨hr, rfl⟩ := Prod.mk.inj hbody
  refine Prod.ext ((Except.ok.inj hr).trans ?_) rfl
  cases r with
  | ok found =>
    obtain ⟨_, _, _, h⟩ := runOn_bind_eq_ok.mp h
    obtain ⟨_, _, _, h⟩ := runOn_bind_eq_ok.mp h
    exact (Prod.mk.inj h).1
  | error fault =>
    -- behind a fault nothing is given
    dsimp only at h
    split at h
    · obtain ⟨_, _, _, h⟩ := runOn_bind_eq_ok.mp h
      obtain ⟨_, _, _, h⟩ := runOn_bind_eq_ok.mp h
      exact absurd (Prod.mk.inj h).1 (by simp)
    · exact absurd (Prod.mk.inj h).1 (by simp)

section Review

variable (p : Pipeline σ) (context : RunContext)

/-- What a review does before its analyzers when files in scope have changed. -/
def Pipeline.untilAnalyzers : Act σ ChangeMap := do
  let log := Pipeline.logFor context
  let base ← liftM (Pipeline.abbreviated context.base)
  let head ← liftM (Pipeline.abbreviated context.head)
  log.info s!"=== REVIEW: {base}...{head} ==="
  let changes ← log.timed p.clock "build_diff_map" [] fun _ =>
    Git.changeMap p.shell (some p.workspace) p.scope context.base.display context.head.display
  log.info (s!"{changes.size} changed file(s): " ++ Text.join ", " changes.sortedPaths)
  log.opening p.clock "run_analyzers"
  return changes

/-- In a review that is started in `w` the analyzers end like this. -/
def Pipeline.AnalyzersEnd (changes : ChangeMap) (w : World σ)
    (outcomes : List (String × Except Fault (List Finding))) : Prop :=
  ∃ v v', (p.untilAnalyzers context).runOn w = (.ok changes, v) ∧
    (Analyzer.outcomes changes p.analyzers).runOn v = (.ok outcomes, v')

variable {p context}

/-- Behind the analyzers the verdict is taken on what they returned. -/
theorem reviewChanges_passed_iff {changes : ChangeMap} {w w' : World σ} {outcome : Outcome}
    (hrun : (p.reviewChanges context changes).runOn w = (.ok outcome, w')) :
    ∃ v v' outcomes, (do
        (Pipeline.logFor context).info
          (s!"{changes.size} changed file(s): " ++ Text.join ", " changes.sortedPaths)
        (Pipeline.logFor context).opening p.clock "run_analyzers").runOn w = (.ok (), v) ∧
      (Analyzer.outcomes changes p.analyzers).runOn v = (.ok outcomes, v') ∧
      (outcome.passed = false ↔
        ∃ f, ReviewResult.IsFirst (Analyzer.returned outcomes) f ∧ f.severity = .blocking) := by
  unfold Pipeline.reviewChanges at hrun
  obtain ⟨_, w₁, hlog, hrun⟩ := runOn_bind_eq_ok.mp hrun
  obtain ⟨findings, w₂, htimed, hrun⟩ := runOn_bind_eq_ok.mp hrun
  obtain ⟨v, v₁, hopening, hfindings⟩ := runOn_timed_ok htimed
  obtain ⟨outcomes, v', houtcomes, hgather⟩ := runOn_bind_eq_ok.mp hfindings
  obtain rfl := gather_returns outcomes _ _ _ hgather
  obtain ⟨result, _, hmerged, hrun⟩ := runOn_bind_eq_ok.mp hrun
  obtain ⟨-, rfl⟩ := ReviewResult.merge_eq_ok_iff.mp (Prod.mk.inj hmerged).1
  obtain ⟨_, _, _, hrun⟩ := runOn_bind_eq_ok.mp hrun
  obtain ⟨_, _, _, hrun⟩ := runOn_bind_eq_ok.mp hrun
  have houtcome : (ReviewResult.ofFindings (Analyzer.returned outcomes)).outcome = outcome := by
    dsimp only at hrun
    split at hrun
    · obtain ⟨_, _, _, hrun⟩ := runOn_bind_eq_ok.mp hrun
      exact Except.ok.inj (Prod.mk.inj hrun).1
    · exact Except.ok.inj (Prod.mk.inj hrun).1
  subst houtcome
  exact ⟨v, v', outcomes, (runOn_bind_ok hlog).trans hopening, houtcomes,
    ReviewResult.passed_eq_false_iff (Analyzer.returned outcomes)⟩

variable (p context)

/-- **The first of its kind decides.** Let git answer with a diff that touches files in
scope, and let the analyzers be any. When a review gives an outcome, its analyzers have
ended in some way, and it fails if and only if a blocking finding stands among the findings
they returned with none in front of it that has its tool, file, line and rule. And it
does give an outcome, as long as analyzers fail with ordinary faults, the lines of what they
find can be written, and publishing fails with faults of talking to the code host. -/
theorem review_passed_iff (I : σ → Prop) {diff : String} {changes : ChangeMap}
    (hgit : Returns (p.shell (p.diffCommand context)) fun answer => answer.stdout = diff)
    (hdiff : ChangeMap.ofDiff p.scope diff = .ok changes) (hsome : changes.isEmpty = false) :
    (∀ w outcome w', (p.review context).runOn w = (.ok outcome, w') →
      ∃ outcomes, p.AnalyzersEnd context changes w outcomes ∧
        (outcome.passed = false ↔
          ∃ f, ReviewResult.IsFirst (Analyzer.returned outcomes) f ∧ f.severity = .blocking)) ∧
    (p.IsReliable I → p.FindsWritable I → p.HasDiff context I →
      ∀ base head pr, context.base = .str base → context.head = .str head →
        context.pullRequest = .ok pr → p.HostingOnly pr I →
        ∀ w, I w.outside → ∃ outcome w', (p.review context).runOn w = (.ok outcome, w')) := by
  constructor
  · intro w outcome w' hrun
    unfold Pipeline.review at hrun
    obtain ⟨base, w₁, hbase, hrun⟩ := runOn_bind_eq_ok.mp hrun
    obtain ⟨head, w₂, hhead, hrun⟩ := runOn_bind_eq_ok.mp hrun
    obtain ⟨_, w₃, hlog, hrun⟩ := runOn_bind_eq_ok.mp hrun
    obtain ⟨found, w₄, htimed, hrun⟩ := runOn_bind_eq_ok.mp hrun
    have hmap : ChangeMap.ofDiff p.scope diff = .ok found :=
      Returns.timed (fun _ => changeMap_returns hgit) _ _ _ htimed
    obtain rfl : changes = found := Except.ok.inj (hdiff.symm.trans hmap)
    rw [hsome] at hrun
    obtain ⟨v, v', outcomes, hstart, houtcomes, hverdict⟩ := reviewChanges_passed_iff hrun
    obtain ⟨_, w₅, hchanged, hopening⟩ := runOn_bind_eq_ok.mp hstart
    refine ⟨outcomes, ⟨v, v', ?_, houtcomes⟩, hverdict⟩
    unfold Pipeline.untilAnalyzers
    rw [runOn_bind_ok hbase, runOn_bind_ok hhead, runOn_bind_ok hlog, runOn_bind_ok htimed,
      runOn_bind_ok hchanged, runOn_bind_ok hopening]
    rfl
  · intro hreliable hlines hread base head pr hbase hhead hpr hstore w hw
    have hends := (review_succeeds hreliable hlines hread hbase hhead hpr hstore w hw).2
    cases hrun : (p.review context).runOn w with
    | mk r w' =>
      rw [hrun] at hends
      cases r with
      | error e => exact hends.elim
      | ok outcome => exact ⟨outcome, w', rfl⟩

end Review

/-! A linter whose findings share one place, beside an analyzer that crashes. -/

def sameLine (severity : Severity) : Finding where
  tool := "eslint"
  rule := "unknown"
  severity := severity
  file := "a.ts"
  message := "no"
  line := some 4

def reportingPipeline (found : List Finding) : Pipeline Unit :=
  { oneLinePipeline with
    analyzers := [⟨"crashing", fun _ => throw (.programMissing "tsc")⟩,
      ⟨"reporting", fun _ => return found⟩]
    store := none }

theorem isReliable_reporting (found : List Finding) :
    (reportingPipeline found).IsReliable fun _ => True where
  clock := ends_pure trivial
  analyzers := by
    intro a ha changes
    simp only [reportingPipeline, List.mem_cons, List.not_mem_nil, or_false] at ha
    rcases ha with rfl | rfl
    · exact ends_throw rfl
    · exact ends_pure trivial

theorem findsWritable_reporting {found : List Finding}
    (h : ∀ f ∈ found, f.isWritable = true) :
    (reportingPipeline found).FindsWritable fun _ => True := by
  intro a ha changes
  simp only [reportingPipeline, List.mem_cons, List.not_mem_nil, or_false] at ha
  rcases ha with rfl | rfl
  · exact ends_throw trivial
  · exact ends_pure h

theorem ofDiff_oneLine : ChangeMap.ofDiff {} oneLineDiff = .ok ⟨[("a.ts", [4])]⟩ := by
  decide +kernel

theorem review_passed_iff_blockingFirst :
    ∃ outcome w', ((reportingPipeline [sameLine .blocking, sameLine .warning]).review
        oneLineContext).runOn ⟨(), .empty, {}⟩ = (.ok outcome, w') ∧
      ∃ outcomes,
        (reportingPipeline [sameLine .blocking, sameLine .warning]).AnalyzersEnd oneLineContext
          ⟨[("a.ts", [4])]⟩ ⟨(), .empty, {}⟩ outcomes ∧
        (outcome.passed = false ↔
          ∃ f, ReviewResult.IsFirst (Analyzer.returned outcomes) f ∧ f.severity = .blocking) := by
  obtain ⟨hiff, hgives⟩ := review_passed_iff
    (reportingPipeline [sameLine .blocking, sameLine .warning]) oneLineContext (fun _ => True)
    (returns_pure rfl) ofDiff_oneLine rfl
  have hread : (reportingPipeline [sameLine .blocking, sameLine .warning]).HasDiff oneLineContext
      fun _ => True := by
    unfold Pipeline.HasDiff
    exact ends_pure ⟨rfl, _, ofDiff_oneLine⟩
  have hwritable : ∀ f ∈ [sameLine .blocking, sameLine .warning], f.isWritable = true := by
    decide +kernel
  obtain ⟨outcome, w', hrun⟩ := hgives (isReliable_reporting _)
    (findsWritable_reporting hwritable) hread "main" "topic" _ rfl rfl rfl
    (fun store hstore => absurd hstore (by simp [reportingPipeline])) ⟨(), .empty, {}⟩ trivial
  exact ⟨outcome, w', hrun, hiff _ _ _ hrun⟩

/-- A finding on a line whose number cannot be written. -/
def overlongLine : Finding :=
  { sameLine .blocking with line := some (Numeral.firstBeyond Numeral.maxDigits) }

/-- A blocking finding behind a warning that is the same does not fail the review, and a
finding whose line cannot be written leaves it without a verdict. -/
theorem review_passes_behindWarning :
    ChangeMap.ofDiff {} oneLineDiff = .ok ⟨[("a.ts", [4])]⟩ ∧
      (((reportingPipeline [overlongLine]).review oneLineContext).runOn
        ⟨(), .empty, {}⟩).1.toOption.isNone = true ∧
      ¬ ((((reportingPipeline [sameLine .warning, sameLine .blocking]).review
            oneLineContext).runOn ⟨(), .empty, {}⟩).1.toOption.map (·.passed) = some false ↔
          ∃ f ∈ [sameLine .warning, sameLine .blocking], f.severity = .blocking) :=
  ⟨ofDiff_oneLine, by decide +kernel, by decide +kernel⟩

end PullReview
