import PullReview.Fault
import PullReview.Lint.Engine

/-!
# Linting by the project's own rules

Changed files are linted under the configuration that the project brings, if it
brings one (`LintMode.detect`). What the linter calls an error blocks.
-/

namespace PullReview

/-!
## Which configuration format a project uses

The linter knows a flat and a legacy configuration format. The flat one wins;
the legacy one may also be a part of the package file.
-/

inductive LintMode where
  | flat
  | legacy
  | absent
  deriving DecidableEq, Repr

namespace LintMode

def name : LintMode → String
  | .flat => "flat"
  | .legacy => "legacy"
  | .absent => "none"

def flatFiles : List String := [
  "eslint.config.js", "eslint.config.mjs", "eslint.config.cjs",
  "eslint.config.ts", "eslint.config.mts", "eslint.config.cts"]

def legacyFiles : List String := [
  ".eslintrc.js", ".eslintrc.cjs", ".eslintrc.mjs", ".eslintrc.json",
  ".eslintrc.yaml", ".eslintrc.yml", ".eslintrc"]

/-- Whether the package file, nested `depth` deep at most, holds a configuration. A file
that is not JSON holds none. -/
def inPackageFile (depth : Nat) (t : Tree) (workspace : Path) : Except Fault Bool := do
  let path := workspace.child "package.json"
  if !(← (t.probeFile path).mapError Fault.file) then return false
  match ((t.content? path).bind String.fromUTF8?).map (Json.read depth) with
  | some (.ok v) => return (v.get? "eslintConfig").isSome
  | some (.error fault) => if fault.isMalformed then return false else throw (.json fault)
  | none => return false

/-- The format that the files of a workspace show. -/
def detect (depth : Nat) (t : Tree) (workspace : Path) : Except Fault LintMode := do
  let has (name : String) : Except Fault Bool :=
    (t.probeFile (workspace.child name)).mapError Fault.file
  if ← flatFiles.anyM has then return .flat
  if ← legacyFiles.anyM has then return .legacy
  if ← inPackageFile depth t workspace then return .legacy
  return .absent

/-- The variables that hold the linter to a format. -/
def environment : LintMode → List (String × String)
  | .flat => [("ESLINT_USE_FLAT_CONFIG", "true")]
  | .legacy => [("ESLINT_USE_FLAT_CONFIG", "false")]
  | .absent => []

end LintMode

/-! ## Linting -/

structure ProjectLint where
  workspace : List String
  command : List String
  /-- how deep a package file or a report may be nested -/
  depth : Nat := Json.usualDepth

namespace ProjectLint

variable {σ : Type}

def tool : String := "eslint"

def log : Logger := { context := [("analyzer", .str tool)] }

/-- What the review says about a message: an error blocks. -/
def diagnostic (file : String) (m : LintMessage) : Diagnostic :=
  m.diagnostic file (if m.severity = LintMessage.errorLevel then .blocking else .warning)

/-- The findings in a report. -/
def fromReport (pl : ProjectLint) (changes : ChangeMap) (report : List LintFile) :
    Act σ (List Finding) := do
  let lintable := report.filter fun f => !f.isIgnored
  let ignored := report.length - lintable.length
  if ignored ≠ 0 then log.debug s!"{ignored} file(s) excluded by ESLint ignore rules"
  if lintable.isEmpty then
    log.info "Nothing to lint: every changed file is ignored"
    return []
  let diagnostics := lintable.flatMap fun f => f.messages.map (diagnostic f.path)
  let findings := findingsOnChange pl.workspace tool changes none diagnostics
  log.info s!"Project lint complete: {findings.length} finding(s)"
  return findings

/-- The findings of the project's linter on the change. -/
def findings (pl : ProjectLint) (shell : Shell σ) (changes : ChangeMap) :
    Act σ (List Finding) := do
  let files := changes.sortedPaths
  if files.isEmpty then return []
  let workspace := Path.absolute pl.workspace
  let mode ← liftM (LintMode.detect pl.depth (← Act.tree) workspace)
  if mode = .absent then
    log.info "No ESLint configuration found; skipping project lint"
    return []
  log.info s!"ESLint config mode: {mode.name}; linting {files.length} file(s)"
  let linter : Linter := ⟨workspace, pl.command, mode.environment, pl.depth⟩
  match ← Act.attempt (linter.lint shell files none []) with
  | .ok report => pl.fromReport changes report
  | .error (.programMissing executable) =>
    let reason := (Fault.programMissing executable).message
    log.info s!"ESLint unavailable ({reason}); skipping project lint"
    return []
  | .error (.lint cause) =>
    log.warning s!"ESLint failed (the configuration may be invalid): {cause.message}"
    return []
  | .error fault => throw fault

end ProjectLint

end PullReview
