import PullReview.Environment
import PullReview.Rehearsal.Script.Octets
import PullReview.Rehearsal.Script.Syntax
import PullReview.Tree.Change

/-!
# The machine that scripts run on

The machine has a file tree, the state of the running process and a clock that
only waiting moves. Descriptors lead to streams, which processes share: what one
reads or writes is read or written for all. Everything that scripts and tools do
is a `Run`, which goes on unless it ends in one of the ways of `Flow`.
-/

namespace PullReview.Rehearsal

/-- What a descriptor leads to. -/
inductive Stream where
  /-- collects what is written, each text with its time, the latest first -/
  | sink (written : List (Nat × String))
  /-- gives what is left of a text, and knows whether its end has been met -/
  | source (rest : String) (ended : Bool)
  | file (place : List String) (position : Nat) (append : Bool)
  | directory
  | nowhere
  | zeros

/-- A variable, which may be known without having a value. -/
structure Variable where
  value : Option String
  /-- whether started programs see it -/
  exported : Bool := false
  /-- whether it keeps its value -/
  fixed : Bool := false

/-- A process in the background: when it ends, if ever, and how. -/
structure Job where
  process : Nat
  ends : Option Nat
  status : Nat

structure Machine where
  tree : Tree
  /-- the places of files that may be run -/
  runnable : List (List String) := []
  streams : Array Stream := #[]
  documents : Array Word := #[]
  /-- nanoseconds waited so far -/
  elapsed : Nat := 0
  /-- processes so far, which also number them -/
  processes : Nat := 1000
  values : List (String × Variable) := []
  functions : List (String × Script) := []
  /-- names of commands that stand for texts -/
  aliases : List (String × String) := []
  /-- the rights that new files do not have -/
  mask : Nat := 18
  /-- where the descriptors lead -/
  descriptors : List (Nat × Nat) := []
  /-- the name of the script and its parameters -/
  name : String := "sh"
  parameters : List String := []
  status : Nat := 0
  /-- the status of the last script inside a word -/
  answered : Nat := 0
  process : Nat := 1000
  /-- the line of the command that runs -/
  line : Nat := 1
  /-- the command that runs a text as part of the script, if there is one -/
  origin : Option String := none
  options : List Char := []
  /-- the letter that comes next in a word of several options -/
  optionOffset : Nat := 1
  /-- loops around the command that runs -/
  loops : Nat := 0
  /-- what local variables were before, for each function that runs -/
  locals : List (List (String × Option Variable)) := []
  /-- what is done about signals; the end of the script has the number zero -/
  traps : List (Nat × String) := []
  /-- signals that something is still to be done about -/
  pending : List Nat := []
  jobs : List Job := []
  /-- what the shell around a subshell does about signals -/
  outerTraps : Option (List (Nat × String)) := none

/-- How a run ends before its time. -/
inductive Flow where
  | exits (status : Nat)
  | killed (process signal : Nat)
  /-- an error that ends a script unless a command of its own has met it -/
  | fails
  | breaks (levels : Nat)
  | continues (levels : Nat)
  | returns (status : Nat)
  /-- nobody knows when -/
  | endless
  deriving DecidableEq

abbrev Run := ExceptT Flow (StateM Machine)

/-- What a tool does by the name it is called by and its arguments; it ends with a
status. -/
abbrev Tool := String → List String → Run Nat

/-- The path that a text of bytes names. -/
def pathOf (name : String) : Path := .ofString (Octets.toText name)

namespace Machine

/-! ## Variables -/

def value? (m : Machine) (name : String) : Option String :=
  (m.values.lookup name).bind (·.value)

/-- Changes a variable, which need not be there yet. -/
def change (m : Machine) (name : String) (f : Variable → Variable) : Machine :=
  if (m.values.lookup name).isSome then
    { m with values := m.values.map fun (n, v) => (n, if n = name then f v else v) }
  else { m with values := m.values ++ [(name, f { value := none })] }

/-- What started programs see, in the order of the variables. -/
def environment (m : Machine) : Environment :=
  m.values.filterMap fun (name, v) => (v.value.filter fun _ => v.exported).map (name, ·)

/-- How many groups of names there are. -/
def groups : Nat := 39

/-- The group of a name, in whose order names are gone through. -/
def group (name : String) : Nat :=
  let codes := name.toList.map Char.toNat
  (codes.headD 0 * 16 + codes.foldl (· + ·) 0) % groups

/-- Names with what belongs to them, group by group. -/
def grouped {α : Type} (entries : List (String × α)) : List (String × α) :=
  (List.range groups).flatMap fun n => entries.filter fun e => group e.1 = n

/-! ## Streams -/

def stream? (m : Machine) (descriptor : Nat) : Option (Nat × Stream) := do
  let index ← m.descriptors.lookup descriptor
  let stream ← m.streams[index]?
  return (index, stream)

/-- Puts a stream behind a descriptor. -/
def connect (m : Machine) (descriptor : Nat) (stream : Stream) : Machine :=
  { m with
    streams := m.streams.push stream
    descriptors := (descriptor, m.streams.size) :: m.descriptors.filter (·.1 ≠ descriptor) }

/-- The content of a file at a place. -/
def contentAt (m : Machine) (place : List String) : ByteArray :=
  match m.tree.root.at? place with
  | some (.file content) => content
  | _ => ByteArray.empty

/-- A content with bytes written over it from a position on. -/
def overwritten (content : ByteArray) (position : Nat) (bytes : ByteArray) : ByteArray :=
  let missing := ⟨Array.replicate (position - content.size) 0⟩
  content.extract 0 position ++ missing ++ bytes ++
    content.extract (position + bytes.size) content.size

/-- Writes a text to where a descriptor leads; nothing if that cannot be. -/
def emit? (m : Machine) (descriptor : Nat) (text : String) : Option Machine := do
  let (index, stream) ← m.stream? descriptor
  match stream with
  | .sink written =>
    return { m with streams := m.streams.setIfInBounds index (.sink ((m.elapsed, text) :: written)) }
  | .file place position append =>
    let content := m.contentAt place
    let bytes := Octets.toBytes text
    let start := if append then content.size else position
    return { m with
      tree := { m.tree with
        root := m.tree.root.set place (.file (overwritten content start bytes)) }
      streams := m.streams.setIfInBounds index (.file place (start + bytes.size) append) }
  | .nowhere => return m
  | _ => none

/-- What is left to read behind a descriptor. -/
def left (m : Machine) (descriptor : Nat) : String :=
  match m.stream? descriptor with
  | some (_, .source rest _) => rest
  | some (_, .file place position _) =>
    let content := m.contentAt place
    Octets.ofBytes (content.extract position content.size)
  | _ => ""

/-- Goes on in what is read behind a descriptor: so many bytes have been used, and
whether more had been asked for. -/
def skip (m : Machine) (descriptor count : Nat) (toTheEnd : Bool) : Machine :=
  match m.stream? descriptor with
  | some (index, .source rest ended) =>
    let rest := String.ofList (rest.toList.drop count)
    { m with streams := m.streams.setIfInBounds index (.source rest (ended || toTheEnd)) }
  | some (index, .file place position append) =>
    { m with streams := m.streams.setIfInBounds index (.file place (position + count) append) }
  | _ => m

/-- Takes back that the end of what is read behind a descriptor has been met. -/
def doubtEnd (m : Machine) (descriptor : Nat) : Machine :=
  match m.stream? descriptor with
  | some (index, .source rest _) =>
    { m with streams := m.streams.setIfInBounds index (.source rest false) }
  | _ => m

/-- The text that a sink has collected, in the order of time. -/
def collected (m : Machine) (index : Nat) : String :=
  match m.streams[index]? with
  | some (.sink written) =>
    String.join ((written.reverse.mergeSort fun a b => a.1 ≤ b.1).map (·.2))
  | _ => ""

/-- A stream from which a file can be read. -/
def source (m : Machine) (name : String) : Except FileFault Stream :=
  let path := pathOf name
  if name = "/dev/null" then .ok .nowhere
  else if name = "/dev/zero" then .ok .zeros
  else if name = "/dev/stdin" then .ok ((m.stream? 0).elim .nowhere (·.2))
  else
    match m.tree.walk path true with
    | .ok ⟨place, some (.file _)⟩ =>
      if name.endsWith "/" then .error (.notDirectory path) else .ok (.file place 0 false)
    | .ok ⟨_, some (.dir _)⟩ => .ok .directory
    | .ok ⟨_, some (.link _)⟩ => .error (.tooManyLinks path)
    | .ok ⟨_, none⟩ => .error (.notFound path)
    | .error obstacle => .error (obstacle.fault path)

/-- A stream by which a file can be written, which is emptied unless texts are put
to its end. -/
def target (m : Machine) (name : String) (append : Bool) : Except FileFault (Machine × Stream) :=
  let path := pathOf name
  if name = "/dev/null" then .ok (m, .nowhere)
  else if name = "" then .error (.notFound path)
  else
    match m.tree.writable path with
    | .error fault => .error fault
    | .ok (place, content) =>
      if name.endsWith "/" then
        .error (if (m.tree.root.at? place).isSome then .notDirectory path else .isDirectory path)
      else
        let content := if append then content else ByteArray.empty
        .ok ({ m with tree := { m.tree with root := m.tree.root.set place (.file content) } },
          .file place 0 append)

end Machine

namespace Run

/-- Writes a text to the output. -/
def write (text : String) : Run Unit := modify fun m => (m.emit? 1 text).getD m

/-- Writes a line to the error output. -/
def complain (line : String) : Run Unit := modify fun m => (m.emit? 2 (line ++ "\n")).getD m

/-- Everything that is left of the input. -/
def readAll : Run String := do
  let text := (← get).left 0
  modify fun m => m.skip 0 text.length true
  return text

/-- The content of a file, or of the input. -/
def contentOf (name : String) : Run (Except FileFault String) := do
  let m ← get
  let stream? : Except FileFault (Option Stream) :=
    if name = "-" then .ok ((m.stream? 0).map (·.2)) else (m.source name).map some
  match stream? with
  | .error fault => return .error fault
  | .ok (some .directory) => return .error (.isDirectory (pathOf name))
  | .ok (some .zeros) => throw .endless
  | .ok (some (.file place _ _)) =>
    if name = "-" then return .ok (← readAll) else return .ok (Octets.ofBytes (m.contentAt place))
  | .ok _ => if name = "-" || name = "/dev/stdin" then return .ok (← readAll) else return .ok ""

/-- Lets time go by. -/
def wait (nanoseconds : Nat) : Run Unit :=
  modify fun m => { m with elapsed := m.elapsed + nanoseconds }

end Run

namespace Signal

/-- Signals by name and number, and what is said of a process that one has ended. -/
def known : List (String × Nat × String) := [
  ("HUP", 1, "Hangup"), ("INT", 2, ""), ("QUIT", 3, "Quit"), ("ILL", 4, "Illegal instruction"),
  ("TRAP", 5, "Trace/breakpoint trap"), ("ABRT", 6, "Aborted"), ("BUS", 7, "Bus error"),
  ("FPE", 8, "Floating point exception"), ("KILL", 9, "Killed"), ("USR1", 10, "User defined signal 1"),
  ("SEGV", 11, "Segmentation fault"), ("USR2", 12, "User defined signal 2"), ("PIPE", 13, ""),
  ("ALRM", 14, "Alarm clock"), ("TERM", 15, "Terminated"), ("STKFLT", 16, "Stack fault"),
  ("CHLD", 17, ""), ("CONT", 18, ""), ("STOP", 19, ""), ("TSTP", 20, ""), ("TTIN", 21, ""),
  ("TTOU", 22, ""), ("URG", 23, ""), ("XCPU", 24, "CPU time limit exceeded"),
  ("XFSZ", 25, "File size limit exceeded"), ("VTALRM", 26, "Virtual timer expired"),
  ("PROF", 27, "Profiling timer expired"), ("WINCH", 28, ""), ("IO", 29, "I/O possible"),
  ("PWR", 30, "Power failure"), ("SYS", 31, "Bad system call")]

/-- The number of a signal, given by number or by name, with or without its usual
beginning. -/
def ofText? (text : String) : Option Nat :=
  if text ≠ "" && text.toList.all Char.isDigit then text.toNat?.filter (· ≤ 64)
  else
    let name := if text.startsWith "SIG" then String.ofList (text.toList.drop 3) else text
    if name = "EXIT" then some 0 else (known.lookup name).map (·.1)

/-- Whether a signal ends a process that does nothing about it. -/
def isDeadly (signal : Nat) : Bool :=
  0 < signal && !([17, 18, 19, 20, 21, 22, 23, 28].contains signal)

/-- What is said of a process that a signal has ended. -/
def obituary (signal : Nat) : String :=
  ((known.find? (·.2.1 = signal)).map (·.2.2)).getD ""

end Signal

end PullReview.Rehearsal
