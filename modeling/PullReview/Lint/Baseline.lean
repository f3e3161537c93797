import PullReview.Lint.Engine
import PullReview.Lint.FlatConfig

/-!
# Linting by built-in rules

Besides the project's own rules every change is linted by a few built-in ones,
whatever the project is configured to. They are advice: every finding is a
warning. Rules that need types run only where the workspace has a project file
at its root. Each pass writes its configuration into the workspace, so that
plugins are found from there, and takes it away again.
-/

namespace PullReview

structure Baseline where
  workspace : List String
  command : List String
  /-- how deep a report may be nested -/
  depth : Nat := Json.usualDepth

namespace Baseline

variable {σ : Type}

def tool : String := "eslint"

def log : Logger := { context := [("analyzer", .str "eslint/builtin")] }

/-- Endings of the files that the built-in rules apply to. -/
def extensions : List String := [".js", ".jsx", ".ts", ".tsx", ".mjs", ".cjs"]

def isScript (path : String) : Bool :=
  extensions.any fun e => e.toList.isSuffixOf path.toList

/-- The linter, held to the flat format. -/
def linter (b : Baseline) : Linter where
  workspace := .absolute b.workspace
  command := b.command
  environment := [("ESLINT_USE_FLAT_CONFIG", "true")]
  depth := b.depth

/-- The name of a configuration file, by a fresh tag. -/
def configName (tag : String) : String := s!".pr-quality-{tag}.eslint.config.mjs"

/-- Runs an action while a configuration file is in the workspace; the file is
gone afterwards, however the action ends. -/
def withConfig {α : Type} (b : Baseline) (tag : Act σ String) (rules : RuleSet)
    (act : String → Act σ α) : Act σ α := do
  let name := configName (← tag)
  let path := (Path.absolute b.workspace).child name
  Act.changeTree fun t => t.write path rules.render.toUTF8
  let answer ← Act.attempt (act name)
  Act.setTree ((← Act.tree).remove path)
  match answer with
  | .ok a => return a
  | .error fault => throw fault

/-- One pass over the files under a rule set. A pass that fails in the linter or
the file system reports nothing. -/
def pass (b : Baseline) (shell : Shell σ) (tag : Act σ String) (files : List String)
    (rules : RuleSet) : Act σ (List LintFile) := do
  let run := b.withConfig tag rules fun name => b.linter.lint shell files (some name) []
  match ← Act.attempt run with
  | .ok report => return report
  | .error (.lint cause) =>
    log.warning s!"{rules.label} failed: {cause.message}"
    return []
  | .error fault =>
    if fault.isSystem then
      log.warning s!"{rules.label} could not write its config: {fault.message}"
      return []
    throw fault

/-- All passes, one after another. -/
def passes (b : Baseline) (shell : Shell σ) (tag : Act σ String) (files : List String)
    (typed : Bool) : Act σ (List LintFile) := do
  let base ← b.pass shell tag files .base
  if typed then
    let more ← b.pass shell tag files .typeAware
    return base ++ more
  return base

/-- The diagnostics in a report; ignored files have none. -/
def diagnostics (report : List LintFile) : List Diagnostic :=
  (report.filter fun f => !f.isIgnored).flatMap fun f =>
    f.messages.map fun m => m.diagnostic f.path .warning

/-- The findings of the built-in rules on the change. -/
def findings (b : Baseline) (shell : Shell σ) (tag : Act σ String) (changes : ChangeMap) :
    Act σ (List Finding) := do
  let files := changes.sortedPaths.filter isScript
  if files.isEmpty then return []
  let typed ← Act.probeFile ((Path.absolute b.workspace).child "tsconfig.json")
  log.info <| s!"Running built-in rules on {files.length} file(s) (tsconfig: " ++
    (if typed then "found" else "missing") ++ ")"
  match ← Act.attempt (b.passes shell tag files typed) with
  | .error (.programMissing executable) =>
    let reason := (Fault.programMissing executable).message
    log.info s!"ESLint unavailable ({reason}); skipping built-in rules"
    return []
  | .error fault => throw fault
  | .ok report =>
    let found := findingsOnChange b.workspace tool changes (some .warning) (diagnostics report)
    log.info s!"Built-in rules complete: {found.length} finding(s)"
    return found

end Baseline

end PullReview
