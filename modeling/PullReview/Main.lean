import PullReview.CommandLine.Review

/-!
# The program

Reads the command line, the environment and the payload of the event, runs the
review and prints its journal. By itself the program starts no other program
and opens no connection: what is outside answers as missing.
-/

namespace PullReview.CommandLine

/-- The environment variables that a run looks at. -/
def variableNames : List String := [
  "GITHUB_API_URL", "GITHUB_TOKEN", "GITHUB_APP_ID", "GITHUB_PRIVATE_KEY",
  "GITHUB_INSTALLATION_ID", "GITHUB_REPOSITORY", "GITHUB_EVENT_PATH", "GITHUB_WORKSPACE",
  "GITHUB_STEP_SUMMARY", "PR_QUALITY_WORKSPACE", "PR_QUALITY_EXTENSIONS",
  "PR_QUALITY_EXCLUDED_DIRS", "PR_QUALITY_GROUP_GAP", "PR_QUALITY_HTTP_RETRIES",
  "PR_QUALITY_HTTP_BACKOFF", "PR_QUALITY_TSC_COMMAND", "PR_QUALITY_ESLINT_COMMAND",
  "PR_QUALITY_POST_COMMENTS", Journal.directoryVariable, Journal.levelVariable, "BASE_SHA",
  "HEAD_SHA", "PR_NUMBER", "HOME"]

/-- What is kept while nothing outside can be reached. -/
structure Alone where
  settings : SettingsCache := {}
  client : GitHub.ClientState := {}

/-- Surroundings in which every program and every server is missing. -/
def alone (env : Environment) : Surroundings Alone where
  environment := env
  homes := ⟨"/", []⟩
  settings := ⟨Alone.settings, fun a s => { a with settings := s }⟩
  shell c := throw (.programMissing (c.argv.headD ""))
  transport := {
    send := fun _ => throw (.unreachable "no connection")
    pause := fun _ => return ()
    now := return ⟨0⟩ }
  signs _ := false
  client := ⟨Alone.client, fun a c => { a with client := c }⟩
  clock := return .zero false
  tag := return "00000000"

/-- A run with its journal set up by the environment first. -/
def runAlone (env : Environment) (o : Options) : Act Alone Ending := do
  Act.ensureJournal (alone env).homes env none none
  (alone env).review o

/-- The tree of a run: the payload of the event, if there is one. -/
def treeWith (here : Path) (payload : Option (Path × ByteArray)) : Tree :=
  let root := (Node.dir []).set here.parts (.dir [])
  let tree : Tree := ⟨root, here.parts⟩
  match payload with
  | some (path, content) => { tree with root := tree.root.set (tree.fromRoot path) (.file content) }
  | none => tree

/-- The environment of the process, as far as a run looks at it. -/
def readEnvironment : IO Environment := do
  let values ← variableNames.mapM fun name => do return (← IO.getEnv name).map (name, ·)
  return values.filterMap id

/-- Reads a file if it can be read. -/
def readIfThere (name : String) : IO (Option ByteArray) := do
  try
    return some (← IO.FS.readBinFile name)
  catch _ =>
    return none

end PullReview.CommandLine

open PullReview PullReview.CommandLine

def main (arguments : List String) : IO UInt32 := do
  match request arguments with
  | .error fault =>
    (usage ++ [fault.line]).forM IO.eprintln
    return refusedStatus.toUInt32
  | .ok .help =>
    IO.print help
    return 0
  | .ok (.review options) =>
    let env ← readEnvironment
    let here := Path.ofString (← IO.currentDir).toString
    let payload ← match env.nonEmpty? "GITHUB_EVENT_PATH" with
      | some name => (·.map (Path.ofString name, ·)) <$> readIfThere name
      | none => pure none
    let (result, world) := (runAlone env options).runOn ⟨{}, treeWith here payload, {}⟩
    world.journal.entries.forM fun entry => IO.eprintln entry.line
    match result with
    | .ok ending => return ending.status.toUInt32
    | .error fault =>
      IO.eprintln fault.message
      return 1
