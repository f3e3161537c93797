import PullReview.Changes.Scan
import PullReview.Program

/-!
# Asking git for the change

Two questions to git: the diff of two revisions since their common ancestor,
and the names of the files in it.
-/

namespace PullReview.Git

variable {σ : Type}

/-- Runs git and gives what it printed. -/
def output (shell : Shell σ) (directory : Option Path) (subcommand : String)
    (args : List String) : Act σ String := do
  let words := subcommand :: args
  let answer ← Act.attempt (shell { argv := "git" :: words, directory := directory })
  match answer with
  | .error (.programMissing _) => throw (.diff .gitMissing)
  | .error fault => throw fault
  | .ok result =>
    if result.succeeded then return result.stdout
    let log : Logger := {}
    log.error ("Command failed: git " ++ Text.join " " words)
    log.error s!"stderr: {Text.trimmed result.stderr}"
    throw (.diff (.gitFailed subcommand result.code result.stderr))

/-- The revision range from the common ancestor to `head`. -/
def range (base head : String) : String := base ++ "..." ++ head

/-- The reviewed files that git lists as changed. -/
def changedFiles (shell : Shell σ) (directory : Option Path) (scope : Scope)
    (base head : String) : Act σ (List String) := do
  let listing ← output shell directory "diff" ["--name-only", range base head]
  return scope.select ((Text.unixLines listing.toList).map String.ofList)

/-- The map of the lines that git shows as added. -/
def changeMap (shell : Shell σ) (directory : Option Path) (scope : Scope)
    (base head : String) : Act σ ChangeMap := do
  let log : Logger := {}
  log.info s!"Computing diff: {range base head}"
  let diff ← output shell directory "diff" ["-U0", "--no-color", range base head]
  match ChangeMap.ofDiff scope diff with
  | .ok map =>
    log.debug s!"Diff indexed: {diff.length} bytes, {map.size} reviewable file(s)"
    return map
  | .error (.tooLong digits) => throw (.data (.longNumeral digits))
  | .error .malformed => throw (.data (.badNumeral ""))

end PullReview.Git
