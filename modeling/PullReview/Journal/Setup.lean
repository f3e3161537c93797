import PullReview.Environment
import PullReview.World

/-!
# Choosing the sinks of the journal

The console takes entries from the level on that is asked for, or that the
environment names. Where a directory for files is named too, a file in it takes
everything from the debug level on. The old sinks go first, so a level that
does not exist leaves no sink at all.
-/

namespace PullReview

/-- Where users are at home: the user of the run if the environment does not
say, and others by name. -/
structure Homes where
  own : String
  others : List (String × String) := []

namespace Homes

/-- The home directory that `~` or `~name` stands for. -/
def home? (homes : Homes) (env : Environment) (component : String) : Option String :=
  let found := match component.toList with
    | ['~'] => some ((env.value? "HOME").getD homes.own)
    | '~' :: name => homes.others.lookup (String.ofList name)
    | _ => none
  found.map fun home =>
    let bare := (home.toList.reverse.dropWhile (· = '/')).reverse
    if bare.isEmpty then "/" else String.ofList bare

/-- A path with a home directory in place of a first component that begins
with `~`; a home directory does not begin so itself. -/
def expand (homes : Homes) (env : Environment) (p : Path) : Except Fault Path :=
  match p.anchor, p.parts with
  | .here, first :: rest =>
    if first.toList.head? = some '~' then
      match (homes.home? env first).filter fun home => home.toList.head? ≠ some '~' with
      | some home => .ok ((Path.ofString home).append ⟨.here, rest⟩)
      | none => .error (.place .noHome)
    else .ok p
  | _, _ => .ok p

end Homes

namespace Journal

/-- Names the directory for files of the journal. -/
def directoryVariable : String := "PR_QUALITY_LOG_DIR"

/-- Names the level of the console. -/
def levelVariable : String := "PR_QUALITY_LOG_LEVEL"

/-- The directory for files: the one asked for, or the environment's. -/
def directory? (homes : Homes) (env : Environment) (tree : Tree) (asked : Option String) :
    Except Fault (Option (List String)) :=
  match asked.or (env.nonEmpty? directoryVariable) with
  | none => .ok none
  | some text => do
    let path ← homes.expand env (.ofString text)
    match tree.realPlace path with
    | .ok place => return some place
    | .error place => throw (.place (.circularLinks place))

/-- The level of the console: the one asked for, or the environment's. -/
def levelName (env : Environment) (asked : Option String) : String :=
  (asked.filter (· ≠ "")).getD ((env.value? levelVariable).getD Level.info.name)

/-- Opens the file of a directory. -/
def openFile (j : Journal) (directory : List String) : Journal :=
  { j with
    sinks := j.sinks ++ [⟨.debug, some directory⟩]
    files := addLine j.files directory none }

end Journal

namespace Act

variable {σ : Type}

/-- Changes the journal. -/
def changeJournal (change : Journal → Journal) : Act σ Unit :=
  modify fun w => { w with journal := change w.journal }

/-- Chooses the sinks anew. -/
def setUpJournal (homes : Homes) (env : Environment) (level directory : Option String) :
    Act σ Unit := do
  changeJournal fun j => { j with sinks := [] }
  let name := Journal.levelName env level
  match Level.ofName? name with
  | none => throw (.data (.unknownLevel name))
  | some threshold =>
    changeJournal fun j => { j with sinks := [⟨threshold, none⟩] }
    if let some place ← liftM (Journal.directory? homes env (← tree) directory) then
      changeTree (·.makeDirs (.absolute place))
      changeJournal (·.openFile place)
    changeJournal fun j => { j with isSetUp := true }

/-- Chooses the sinks if that has not been done. -/
def ensureJournal (homes : Homes) (env : Environment) (level directory : Option String) :
    Act σ Unit := do
  if !(← get).journal.isSetUp then setUpJournal homes env level directory

end Act

end PullReview
