import PullReview.World

/-!
# Programs that the review starts

A command names a program and its arguments, the directory it runs in and the
environment variables set for it. What a shell does with a command is up to the
world; the review asks only for the exit code and the two outputs.
-/

namespace PullReview

structure Command where
  argv : List String
  directory : Option Path := none
  environment : List (String × String) := []

structure CommandResult where
  code : Int
  stdout : String
  stderr : String

namespace CommandResult

def succeeded (r : CommandResult) : Bool := r.code = 0

end CommandResult

/-- Starts commands and waits for them. -/
abbrev Shell (σ : Type) := Command → Act σ CommandResult

/-- A shell that tells what it starts, and how it ended. A file that is not
found at the start is the program's. -/
def Shell.telling {σ : Type} (shell : Shell σ) : Shell σ := fun c => do
  let log : Logger := {}
  let directory := c.directory.getD (.absolute (← Act.tree).here)
  log.debug ("Running command: " ++ Text.join " " c.argv ++ s!" (cwd={directory})")
  let program := c.argv.headD ""
  let result ← match ← Act.attempt (shell c) with
    | .ok result => pure result
    | .error fault => throw (if fault.isMissingFile then .programMissing program else fault)
  log.debug s!"Command exited with {result.code}: {program}"
  return result

/-- The text that says more about a run: the first of two that is not blank. -/
def firstTelling (a b : String) : String :=
  let a := Text.trimmed a
  if a = "" then Text.trimmed b else a

end PullReview
