import PullReview.Number.Double
import PullReview.Program
import PullReview.Rehearsal.Script.Run

/-!
# A rehearsed host

A review knows commands by a `Shell` alone, which may be any function. This is one
for trying a run out where there is no system: a few tools and an interpreter for
scripts work on the file tree, to which the directories of the host belong. A
command may be given a limited time; since only waiting takes time here, whether
it is kept does not hang on the machine.
-/

namespace PullReview.Rehearsal

structure Host where
  environment : Environment
  /-- files of the host itself, none of them a program -/
  files : List (List String) := [["etc", "passwd"], ["etc", "group"], ["etc", "hosts"],
    ["etc", "hostname"]]
  directories : List (List String) := [["dev"], ["etc"], ["home"], ["opt"], ["proc"], ["root"], ["run"],
    ["srv"], ["tmp"], ["usr"], ["usr", "bin"], ["usr", "local"], ["usr", "local", "bin"],
    ["usr", "sbin"], ["var"], ["var", "tmp"]]
  links : List (List String × String) := [(["bin"], "usr/bin"), (["sbin"], "usr/sbin")]

namespace Host

/-- The places of the programs. -/
def programs : List (List String) :=
  (Tool.catalog.map (·.1) ++ Tool.starters).map fun name => ["usr", "bin", name]

/-- A tree with what belongs to the host; what is there already stays. -/
def ground (h : Host) (root : Node) : Node :=
  let add (root : Node) (place : List String) (node : Node) : Node :=
    if (root.at? place).isSome then root else root.set place node
  let root := h.directories.foldl (fun root place => add root place (.dir [])) root
  let root := h.links.foldl (fun root (place, target) => add root place (.link target)) root
  (h.files ++ programs).foldl (fun root place => add root place (.file ByteArray.empty)) root

/-- How many bytes a word for a program may have. -/
def maxWord : Nat := 131071

/-- The bytes of a word for a program. -/
def wordOf (s : String) : Except Fault String :=
  if s.toList.contains '\x00' then .error (.data .endOfWord) else .ok (Octets.ofText s)

/-- A setting of the environment. -/
def settingOf (name value : String) : Except Fault (String × String) := do
  if name.toList.contains '=' then throw (.data .badVariableName)
  return (← wordOf name, ← wordOf value)

/-- Whether a time in nanoseconds is longer than a limit in seconds. -/
def exceeds (elapsed : Nat) : Double → Bool
  | .finite negative m e =>
    let (num, den) := Double.fraction m e
    negative || m = 0 || num * 1000000000 < elapsed * den
  | .infinite negative => negative
  | .nan => false

/-- The nanoseconds that starting a program takes at least. -/
def startingTime : Nat := 100000

/-- When the last process has ended; nothing if one goes on for ever. -/
def lastEnd (m : Machine) : Option Nat :=
  m.jobs.foldl (fun time job => do return max (← time) (← job.ends)) (some m.elapsed)

/-- The machine on which a program starts. -/
def machine (h : Host) (t : Tree) (settings : List (String × String)) : Machine :=
  let values := settings.map fun (name, value) => (name, ({ value := some value, exported := true } : Variable))
  { tree := { t with root := h.ground t.root }
    runnable := programs
    streams := #[.nowhere, .sink [], .sink []]
    descriptors := [(0, 0), (1, 1), (2, 2)]
    values := values
    elapsed := startingTime }

/-- The path and the place of the program that a name means. -/
def find (m : Machine) (word : String) : Except FileFault (String × List String) :=
  if word.toList.contains '/' then (m.programAt word).map fun place => (word, place)
  else
    let path := (m.value? "PATH").getD Launch.usualPath
    m.searchIn word (Machine.candidates path word)

/-- Starts a command and waits for its end, at most for the given time. -/
def start (h : Host) (limit : Option Double) (t : Tree) (c : Command) :
    Except Fault (CommandResult × Tree) := do
  let word ← match c.argv with
    | word :: _ => pure word
    | [] => throw (.misuse .noProgram)
  let settings ← (h.environment.setAll c.environment).mapM fun (name, value) => settingOf name value
  let words ← c.argv.mapM wordOf
  let here ← match c.directory with
    | none => pure t.here
    | some directory => (t.directory directory).mapError Fault.file
  let m := h.machine { t with here := here } settings
  let found ← (find m (words.headD "")).mapError Fault.file
  if (words ++ settings.map fun (name, value) => name ++ "=" ++ value).any (maxWord < ·.length) then
    throw (.outside .system "OSError" s!"[Errno 7] Argument list too long: {Text.quoted word}")
  let (result, m) := (Launch.launch Script.inner Launch.usualDepth (words.headD "") words.tail found).run m
  let code : Int := match result with
    | .ok status | .error (.exits status) | .error (.returns status) => status
    | .error (.killed _ signal) => -(signal : Int)
    | .error _ => m.status
  let isEndless : Bool := match result with
    | .error flow => flow = .endless
    | .ok _ => false
  match if isEndless then none else lastEnd m with
  | none => throw .overdue
  | some time =>
    if limit.any (exceeds time) then throw .overdue
    return ({
      code := code
      stdout := Octets.toText (m.collected 1)
      stderr := Octets.toText (m.collected 2) }, { m.tree with here := t.here })

/-- A shell that starts commands on the host. -/
def shell {σ : Type} (h : Host) (limit : Option Double) : Shell σ := fun c => do
  match h.start limit (← Act.tree) c with
  | .ok (result, t) => do
    Act.setTree t
    return result
  | .error fault => throw fault

end Host

end PullReview.Rehearsal
