import PullReview.Compiler.Message
import PullReview.Compiler.Projects
import PullReview.Diagnostic
import PullReview.Program

/-!
# Type checking the change

Each project of the workspace is asked which files it holds, and is checked if
a changed file is among them. Only errors block.
-/

namespace PullReview

/-- How the type checker is called and which of its messages are passed over. -/
structure TypeCheck where
  workspace : List String
  command : List String
  isNoise : CompilerMessage → Bool

namespace TypeCheck

variable {σ : Type}

def tool : String := "typecheck"

def log : Logger := { context := [("analyzer", .str tool)] }

def run (tc : TypeCheck) (shell : Shell σ) (args : List String) : Act σ CommandResult :=
  shell { argv := tc.command ++ args, directory := some (.absolute tc.workspace) }

/-- The files that a project lists; none if it cannot be read. -/
def listedFiles (tc : TypeCheck) (shell : Shell σ) (project : Path) :
    Act σ (Option (List (List String))) := do
  let result ← tc.run shell ["-p", project.text, "--listFilesOnly"]
  let log : Logger := {}
  if !result.succeeded then
    log.warning s!"Failed to read {project}: {firstTelling result.stdout result.stderr}"
    return none
  let lines := (Text.separatedLines result.stdout.toList).map Text.trim
  let places ← (lines.filter fun l => !l.isEmpty).mapM fun l =>
    Act.realPlace ((Path.absolute tc.workspace).append (.ofString (String.ofList l)))
  return some places

/-- What the review says about a message of the checker. -/
def diagnostic (m : CompilerMessage) : Diagnostic where
  file := m.file
  line := some m.line
  column := some m.column
  rule := some s!"TS{m.code}"
  severity := if m.category = .error then .blocking else .warning
  message := m.message

/-- The findings of one project. -/
def projectFindings (tc : TypeCheck) (shell : Shell σ) (changes : ChangeMap)
    (changed : List (List String)) (project : List String) : Act σ (List Finding) := do
  let path := Path.absolute project
  let some listed ← tc.listedFiles shell path | return []
  let directory ← Act.realPlace path.parent
  let relevant := changed.filter fun place =>
    Path.isWithin directory place && listed.contains place
  let log : Logger := {}
  if relevant.isEmpty then
    log.debug s!"{path}: no changed files in project, skipping"
    return []
  log.info s!"{path}: {relevant.length} changed file(s) in project"
  let result ← tc.run shell ["-p", path.text, "--noEmit", "--pretty", "false", "--skipLibCheck"]
  match CompilerMessage.ofOutput result.stdout with
  | .error fault => throw (fault.fault "")
  | .ok messages =>
    if !result.succeeded && messages.isEmpty then
      log.warning <| s!"tsc exited with {result.code} for {path} without diagnostics: " ++
        firstTelling result.stderr result.stdout
      return []
    let diagnostics := (messages.filter fun m => !tc.isNoise m).map diagnostic
    return findingsOnChange tc.workspace tool changes none diagnostics

/-- Checks the projects one after another. A missing checker ends the check;
what was found before stays. -/
def checkProjects (tc : TypeCheck) (shell : Shell σ) (changes : ChangeMap)
    (changed : List (List String)) : List (List String) → List Finding → Act σ (List Finding)
  | [], found => do
    log.info s!"Type check complete: {found.length} finding(s)"
    return found
  | project :: rest, found => do
    match ← Act.attempt (tc.projectFindings shell changes changed project) with
    | .ok more => checkProjects tc shell changes changed rest (found ++ more)
    | .error (.programMissing executable) =>
      let reason := (Fault.programMissing executable).message
      log.info s!"TypeScript compiler unavailable ({reason}); skipping type check"
      return found
    | .error fault => throw fault

/-- The findings of the type checker on the change. -/
def findings (tc : TypeCheck) (shell : Shell σ) (changes : ChangeMap) : Act σ (List Finding) := do
  if changes.isEmpty then return []
  let changed ← changes.paths.mapM fun p =>
    Act.realPlace ((Path.absolute tc.workspace).append (.ofString p))
  let projects := (← Act.tree).projects ignoredDirectories tc.workspace
  if projects.isEmpty then
    log.warning "No tsconfig.json found; skipping type check"
    return []
  tc.checkProjects shell changes changed.eraseDups projects []

end TypeCheck

end PullReview
