import PullReview.Changes.Git
import PullReview.Comments.Reconcile
import PullReview.Compiler.Check
import PullReview.Lint.Baseline
import PullReview.Lint.Project
import PullReview.RunContext
import PullReview.Settings.Basic

/-!
# The review

A review asks git what changed, runs every analyzer over the change, merges
their findings, brings the comments up to date if there is a store for them,
and gives its verdict. An analyzer that fails contributes nothing, and trouble
with the comments does not touch the verdict.
-/

namespace PullReview

/-- A source of findings on a change. -/
structure Analyzer (σ : Type) where
  name : String
  run : ChangeMap → Act σ (List Finding)

namespace Analyzer

variable {σ : Type}

/-- What the analyzers gave, in their order. All of them run, whatever becomes
of the others. -/
def outcomes (changes : ChangeMap) : List (Analyzer σ) →
    Act σ (List (String × Except Fault (List Finding)))
  | [] => return []
  | a :: rest => do
    let outcome ← Act.attempt (a.run changes)
    return (a.name, outcome) :: (← outcomes changes rest)

/-- Gathers the findings. Failures are told; an order to stop is obeyed. -/
def gather : List (String × Except Fault (List Finding)) → Act σ (List Finding)
  | [] => return []
  | (_, .ok found) :: rest => do return found ++ (← gather rest)
  | (name, .error fault) :: rest => do
    if !fault.isOrdinary then throw fault
    Logger.failure {} s!"Analyzer {name} crashed" (some fault) []
    gather rest

/-- The findings of all analyzers on a change. -/
def runAll (analyzers : List (Analyzer σ)) (changes : ChangeMap) : Act σ (List Finding) := do
  gather (← outcomes changes analyzers)

/-- The analyzers of every review. -/
def usual (settings : Settings) (workspace : List String) (depth : Nat) (shell : Shell σ)
    (tag : Act σ String) : List (Analyzer σ) :=
  let typeCheck : TypeCheck := {
    workspace := workspace
    command := settings.typeCheckCommand
    isNoise := fun m => CompilerMessage.isNoise m.code m.message }
  let lint : ProjectLint := ⟨workspace, settings.lintCommand, depth⟩
  let baseline : Baseline := ⟨workspace, settings.lintCommand, depth⟩
  [ ⟨TypeCheck.tool, typeCheck.findings shell⟩,
    ⟨ProjectLint.tool, lint.findings shell⟩,
    ⟨Baseline.tool, baseline.findings shell tag⟩ ]

end Analyzer

/-- How reviews are run. -/
structure Pipeline (σ : Type) where
  workspace : Path
  scope : Scope
  groupGap : Int
  analyzers : List (Analyzer σ)
  store : Option (CommentStore σ)
  shell : Shell σ
  /-- seconds by a clock that never goes back -/
  clock : Act σ Double

namespace Pipeline

variable {σ : Type}

/-- The first eight characters of a revision, or items of a list. -/
def abbreviated (v : Json) : Except Fault String :=
  match v with
  | .str s => .ok (String.ofList (s.toList.take 8))
  | .arr items => .ok (Json.arr (items.take 8)).literal
  | .obj _ => .error (.misuse (.unhashable "slice"))
  | _ => .error (.misuse (.noItems v.kindName))

def logFor (context : RunContext) : Logger :=
  Logger.bind {} [("repository", context.repository), ("pull_number", .int context.number)]

/-- Brings the comments up to date. What goes wrong on the way to the code host
is told and left. -/
def publish (p : Pipeline σ) (result : ReviewResult) (context : RunContext) : Act σ Unit := do
  let log := logFor context
  match p.store with
  | none => log.info "Comment publishing disabled"
  | some store =>
    let run := log.timed p.clock "publish_comments" [] fun _ => do
      let pr ← liftM context.pullRequest
      Reconcile.reconcile store p.groupGap result pr
    match ← Act.attempt run with
    | .ok report =>
      log.info <|
        s!"Comments published: summary {report.summary.name}, " ++
          s!"{report.created} line comment(s) created, {report.skipped} skipped, " ++
          s!"{report.failed} failed"
    | .error fault =>
      if !fault.isHosting then throw fault
      Logger.failure {} "Failed to publish PR comments" (some fault)
        [("repository", context.repository)]

/-- Reviews a change that touches files in scope. -/
def reviewChanges (p : Pipeline σ) (context : RunContext) (changes : ChangeMap) :
    Act σ Outcome := do
  let log := logFor context
  log.info (s!"{changes.size} changed file(s): " ++ Text.join ", " changes.sortedPaths)
  let findings ← log.timed p.clock "run_analyzers" [] fun _ =>
    Analyzer.runAll p.analyzers changes
  let result ← liftM (ReviewResult.merge findings)
  log.info <| s!"Aggregated findings: blocking={result.blocking.length}, " ++
    s!"warnings={result.warnings.length}"
  p.publish result context
  let outcome := result.outcome
  if outcome.passed then
    Logger.success {} outcome.message [("repository", context.repository)]
  return outcome

/-- Reviews the change of a run. -/
def review (p : Pipeline σ) (context : RunContext) : Act σ Outcome := do
  let log := logFor context
  let base ← liftM (abbreviated context.base)
  let head ← liftM (abbreviated context.head)
  log.info s!"=== REVIEW: {base}...{head} ==="
  let changes ← log.timed p.clock "build_diff_map" [] fun _ =>
    Git.changeMap p.shell (some p.workspace) p.scope context.base.display context.head.display
  if changes.isEmpty then
    log.info "No reviewable files changed; skipping analysis"
    return (ReviewResult.ofFindings []).outcome
  p.reviewChanges context changes

end Pipeline

end PullReview
