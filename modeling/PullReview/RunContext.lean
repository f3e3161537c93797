import PullReview.Environment
import PullReview.PullRequest
import PullReview.World

/-!
# Which change a run is about

Base, head, number and repository each have three sources: the arguments, the
payload of the event that started the run, and the environment (for the
repository, the settings). The first source that has something wins. Values of
the payload are taken as they are, whatever their kind.
-/

namespace PullReview

structure RunContext where
  repository : Json
  base : Json
  head : Json
  number : Int

/-- What the caller asks for. -/
structure RunRequest where
  base : Json := .null
  head : Json := .null
  number : Json := .null
  repository : Json := .null

namespace RunContext

variable {σ : Type}

/-- A member that is an object; one that stands for nothing is an empty object. -/
def part (v : Json) (name : String) : Except Fault Json := do
  let x ← v.member name
  return if x.isTruthy then x else .obj []

/-- The payload of the event, nested `depth` deep at most; an empty object when there
is none. -/
def eventPayload (depth : Nat) (path : Option Path) : Act σ Json := do
  let some path := path | return .obj []
  if !(← Act.probeFile path) then return .obj []
  let content := ((← Act.tree).content? path).bind String.fromUTF8?
  let unreadable : Act σ Json := do
    Logger.warning {} s!"Could not read event payload at {path}"
    return .obj []
  match content.map (Json.read depth) with
  | some (.ok (.obj members)) => return .obj members
  | some (.ok _) => return .obj []
  | some (.error fault) => if fault.isMalformed then unreadable else throw (.json fault)
  | none => unreadable

/-- A revision: the argument, the payload's, or the variable's. -/
def revision (argument pr : Json) (side : String) (variableValue : Option String) :
    Except Fault Json :=
  if argument.isTruthy then .ok argument
  else do
    let sha ← (← part pr side).member "sha"
    if sha.isTruthy then return sha
    return (variableValue.map Json.str).getD .null

/-- Reads the number of a pull request; nothing where none is given. -/
def numberOf (raw : Json) : Except Fault (Option Int) :=
  match raw with
  | .null => .ok none
  | .int n => .ok (some n)
  | .bool b => .ok (some (if b then 1 else 0))
  | .float x =>
    match x with
    | .infinite _ => .error (.outOfRange "cannot convert float infinity to integer")
    | x => match x.truncate? with
      | some n => .ok (some n)
      | none => .error (.runContext (.badNumber raw))
  | .str s =>
    if s = "" then .ok none
    else match Numeral.readInt s with
      | .ok n => .ok (some n)
      | .error _ => .error (.runContext (.badNumber raw))
  | .arr _ | .obj _ => .error (.runContext (.badNumber raw))

/-- The first number among the sources; later ones are not looked at. -/
def firstNumber : List (Except Fault Json) → Except Fault Int
  | [] => .error (.runContext .noNumber)
  | source :: rest => do
    match ← numberOf (← source) with
    | some n => return n
    | none => firstNumber rest

/-- Whether a name has a slash in it: a text, or a collection that holds one. -/
def hasSlash (v : Json) : Except Fault Bool :=
  match v with
  | .str s => .ok (s.toList.contains '/')
  | .arr items => .ok (items.any fun x => x.str? = some "/")
  | .obj members => .ok (members.any (·.1 = "/"))
  | _ => .error (.misuse (.noContainment v.kindName))

/-- The repository: the argument, the settings', or the payload's. -/
def repositoryOf (argument : Json) (setting : Option String) (event : Json) : Except Fault Json :=
  if argument.isTruthy then .ok argument
  else match setting.filter (· ≠ "") with
    | some name => .ok (.str name)
    | none => do (← part event "repository").member "full_name"

/-- Finds out what a run is about, once the payload is there. -/
def ofPayload (event : Json) (setting : Option String) (env : Environment)
    (request : RunRequest) : Except Fault RunContext := do
  let pr ← part event "pull_request"
  let base ← revision request.base pr "base" (env.value? "BASE_SHA")
  let head ← revision request.head pr "head" (env.value? "HEAD_SHA")
  if !base.isTruthy || !head.isTruthy then throw (.runContext .noRevisions)
  let number ← firstNumber [
    .ok request.number,
    pr.member "number",
    .ok ((env.value? "PR_NUMBER").map Json.str |>.getD .null)]
  let repository ← repositoryOf request.repository setting event
  if !repository.isTruthy then throw (.runContext .noRepository)
  if !(← hasSlash repository) then throw (.runContext .noRepository)
  return ⟨repository, base, head, number⟩

/-- Finds out what a run is about. -/
def resolve (depth : Nat) (eventPath : Option Path) (setting : Option String) (env : Environment)
    (request : RunRequest) : Act σ RunContext := do
  let event ← eventPayload depth eventPath
  liftM (ofPayload event setting env request)

/-- The pull request of a run. -/
def pullRequest (c : RunContext) : Except Fault PullRequest := do
  match c.repository with
  | .str name => PullRequest.ofFullName name c.number c.head
  | v =>
    if ← hasSlash v then throw (.misuse (.noMember v.kindName "split"))
    throw (.data (.badRepository v.display))

end RunContext

end PullReview
