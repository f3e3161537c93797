import PullReview.CommandLine.Options
import PullReview.GitHub.Client
import PullReview.Journal.Setup
import PullReview.Pipeline
import PullReview.Text.Case

/-!
# A review from the command line

The options and the environment say what is reviewed and whether comments are
posted. Without settings, without a change to look at or without its diff there
is no review; that is told, and the run fails. Otherwise the report is added to
the summary of the job where there is one, and the run ends as the verdict says.
-/

namespace PullReview.CommandLine

/-- What a run from the command line finds around it. -/
structure Surroundings (σ : Type) where
  environment : Environment
  homes : Homes
  settings : Part σ SettingsCache
  shell : Shell σ
  transport : Transport σ
  signs : GitHub.Signer
  client : Part σ GitHub.ClientState
  /-- seconds by a clock that never goes back -/
  clock : Act σ Double
  /-- a part of a file name that is in use nowhere -/
  tag : Act σ String
  reading : Reading := {}

/-- How a run ends. -/
inductive Ending where
  | passed
  | failed
  deriving DecidableEq, Repr

/-- The exit status. -/
def Ending.status : Ending → Nat
  | .passed => 0
  | .failed => 1

/-- The change that the options ask for. -/
def Options.runRequest (o : Options) : RunRequest :=
  let value (s : Option String) : Json := (s.map Json.str).getD .null
  { base := value o.base
    head := value o.head
    number := value o.number
    repository := value o.repository }

/-- Faults that keep a review from starting. -/
def keepsFromStarting : Fault → Bool
  | .settings _ | .runContext _ | .diff _ => true
  | _ => false

namespace Surroundings

variable {σ : Type}

/-- The kept settings, with the workspace that the options name. -/
def chosenSettings (s : Surroundings σ) (o : Options) : Act σ Settings := do
  let here := Path.absolute (← Act.tree).here
  let settings ← s.settings.step fun cache => cache.get s.environment here
  return match o.workspace.filter (· ≠ "") with
    | some workspace => { settings with workspace := .ofString workspace }
    | none => settings

/-- The review of a workspace. -/
def pipeline (s : Surroundings σ) (settings : Settings) (place : List String)
    (store : Option (CommentStore σ)) : Pipeline σ where
  workspace := settings.workspace
  scope := settings.scope
  groupGap := settings.groupGap
  analyzers := Analyzer.usual settings place s.reading.depth s.shell.telling s.tag
  store := store
  shell := s.shell.telling
  clock := s.clock

/-- A client of the code host that has done nothing yet. -/
def openSession (s : Surroundings σ) (settings : Settings) (access : Access) :
    Act σ (GitHub.Session σ) := do
  s.client.step fun _ => (.ok (), {})
  let base ← liftM (GitHub.Base.ofString settings.apiRoot)
  return {
    client := {
      base := base
      access := access
      maxRetries := settings.maxRetries
      backoff := .fractional settings.backoff
      reading := s.reading }
    transport := s.transport
    signs := s.signs
    state := s.client }

/-- Reviews the change of a run; comments are posted unless options or settings
forbid it. -/
def outcome (s : Surroundings σ) (o : Options) (settings : Settings) : Act σ Outcome := do
  let context ← RunContext.resolve s.reading.depth settings.eventPath settings.repository
    s.environment o.runRequest
  let place ← Act.realPlace settings.workspace
  if o.dryRun || !settings.postComments then
    (s.pipeline settings place none).review context
  else
    let session ← s.openSession settings (← liftM settings.access)
    let result ← Act.attempt ((s.pipeline settings place (some session.store)).review context)
    session.close
    liftM result

/-- Adds the report to the summary of the job, where the environment names a
file for it. -/
def writeJobSummary (s : Surroundings σ) (settings : Settings) (outcome : Outcome) :
    Act σ Unit := do
  let log : Logger := {}
  match s.environment.nonEmpty? "GITHUB_STEP_SUMMARY" with
  | none => log.debug "GITHUB_STEP_SUMMARY not set, skipping job summary"
  | some file =>
    let path := Path.ofString file
    Act.changeTree (·.makeDirs path.parent)
    Act.changeTree (·.appendTo path (outcome.result.stepSummary settings.groupGap).toUTF8)
    log.info "Job summary written"

/-- Settings and outcome of a review. -/
def reviewed (s : Surroundings σ) (o : Options) : Act σ (Settings × Outcome) := do
  let settings ← s.chosenSettings o
  return (settings, ← s.outcome o settings)

/-- A review as the options ask for it. -/
def review (s : Surroundings σ) (o : Options) : Act σ Ending := do
  let log : Logger := {}
  if let some level := o.logLevel.filter (· ≠ "") then
    Act.setUpJournal s.homes s.environment (some (Text.capitals level)) none
  match ← Act.attempt (s.reviewed o) with
  | .error fault =>
    if !keepsFromStarting fault then throw fault
    log.failure "Review could not start" (some fault) []
    return .failed
  | .ok (settings, outcome) =>
    s.writeJobSummary settings outcome
    if outcome.passed then
      log.info outcome.message
      return .passed
    log.error outcome.message
    return .failed

end Surroundings

end PullReview.CommandLine
