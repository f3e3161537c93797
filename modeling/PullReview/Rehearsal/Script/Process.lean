import PullReview.Rehearsal.Script.Expansion
import PullReview.Rehearsal.Script.Reader

/-!
# Processes of a script

A script runs parts of itself and programs on their own. Whatever such a process
changes in its own state is gone when it ends; what it has written, read and
waited stays. It ends with a status, however it has come to its end, unless the
end is also that of the script around it.
-/

namespace PullReview.Rehearsal

/-- In what way a script runs. -/
structure Manner where
  /-- its status is looked at, so that failing ends nothing -/
  tested : Bool := false
  /-- nothing is left to do behind it, so that a program can take its place -/
  last : Bool := false

/-- How the scripts inside others are run. -/
structure Inner where
  run : Manner → Script → Run Unit
  /-- a text that is read and run line by line -/
  source : Manner → Source → Run Unit
  /-- a loop as long as its test ends as wanted, with the status of its body so far -/
  loop : Manner → Bool → Script → Script → Nat → Run Unit

/-- The state of a process put back, with what it shares as it is now. -/
def Machine.returned (old new : Machine) : Machine :=
  { old with
    tree := { new.tree with here := old.tree.here }
    runnable := new.runnable
    streams := new.streams
    documents := new.documents
    elapsed := new.elapsed
    processes := new.processes }

namespace Run

/-- Runs something and tells how it ended, if not by going on. -/
def observed (body : Run Unit) : Run (Option Flow) :=
  tryCatch (do
    body
    return none) fun flow => return some flow

/-- A text as a source, with the here-documents of the machine. -/
def sourceOf (text : String) : Run Source := return { rest := text.toList, documents := (← get).documents }

/-- Runs something up to its end and then what has been asked for at the end. -/
def concluded (inner : Inner) (body : Run Unit) : Run Unit := do
  let settle (ending : Option Flow) : Run Unit := do
    match ending with
    | none | some .fails | some (.breaks _) | some (.continues _) => pure ()
    | some (.exits status) | some (.returns status) => modify fun m => { m with status := status }
    | some flow => throw flow
  settle (← observed body)
  let m ← get
  match m.traps.lookup 0 with
  | some action =>
    if action ≠ "" then
      set { m with traps := m.traps.filter (·.1 ≠ 0) }
      match ← observed (inner.source {} (← sourceOf action)) with
      | some (.exits status) => modify fun m => { m with status := status }
      | some (.killed process signal) => throw (.killed process signal)
      | some .endless => throw .endless
      | _ => modify fun new => { new with status := m.status }
  | none => pure ()

/-- Runs something as a process of its own: only its status is left. When a signal
has ended it, that is told. -/
def enclosed (prepare : Machine → Machine) (body : Run Unit) : Run Unit := do
  let old ← get
  set (prepare old)
  let ending ← observed body
  let new ← get
  match ending with
  | some .endless => throw .endless
  | some (.killed process signal) =>
    if process = old.process then throw (.killed process signal)
    else
      set { old.returned new with status := 128 + signal }
      let text := Signal.obituary signal
      if text ≠ "" then complain text
  | _ => set { old.returned new with status := new.status, pending := new.pending }

/-- The state in which a part of a script runs on its own. -/
def subshell (m : Machine) : Machine :=
  { m with
    traps := m.traps.filter (·.2 = "")
    outerTraps := some (m.outerTraps.getD m.traps)
    loops := 0
    jobs := [] }

/-- Runs a part of a script on its own. -/
def apart (inner : Inner) (body : Run Unit) : Run Unit :=
  enclosed subshell (concluded inner body)

/-- Whether the script does anything about signals or its end. -/
def hasTraps : Run Bool := return (← get).traps.any (·.2 ≠ "")

/-- The state in which a program starts: it sees what is exported. -/
def started (process : Nat) (m : Machine) : Machine :=
  { m with
    values := m.values.filter fun v => v.2.exported && v.2.value.isSome
    functions := []
    process := process
    options := []
    loops := 0
    locals := []
    traps := m.traps.filter (·.2 = "")
    outerTraps := none
    pending := []
    jobs := [] }

/-- Starts a program, which gives a status. In the place of the script it ends that
too. -/
def program (replaces : Bool) (body : Run Nat) : Run Unit := do
  let m ← get
  let run (prepare : Machine → Machine) : Run Unit := do
    modify prepare
    let status ← body
    modify fun m => { m with status := status }
  if replaces then
    -- the process stays the same unless a part of a script has been one of its own
    let process := if m.outerTraps.isSome then m.processes + 1 else m.process
    set { m with processes := m.processes + 1 }
    run (started process)
    throw (.exits (← get).status)
  else
    set { m with processes := m.processes + 1 }
    enclosed id (run (started (m.processes + 1)))

/-- Runs parts at the same time: each begins when the first does, and the last to end
counts. -/
def together (begin : Nat) (body : Run Unit) : Run Unit := do
  let before := (← get).elapsed
  modify fun m => { m with elapsed := begin }
  body
  modify fun m => { m with elapsed := max before m.elapsed }

/-- Runs something with its output in a new stream, and tells which. -/
def captured (body : Run Unit) : Run Nat := do
  let m ← get
  let index := m.streams.size
  set (m.connect 1 (.sink []))
  body
  modify fun new => { new with descriptors := m.descriptors }
  return index

/-- What a script writes, without the line ends behind it. -/
def output (inner : Inner) (body : Script) : Run String := do
  let index ← captured (apart inner (inner.run { last := true } body))
  let m ← get
  set { m with answered := m.status }
  let text := (m.collected index).toList.filter (· ≠ '\x00')
  return String.ofList (text.reverse.dropWhile (· = '\n')).reverse

/-- Runs parts of a pipeline, the output of each the input of the next. A part that
would go on for ever is ended when the one behind it does not read on. -/
def pipelineFrom (inner : Inner) (begin : Nat) : List Script → Run Unit
  | [] => return ()
  | [part] => together begin (apart inner (inner.run { last := true } part))
  | part :: rest => do
    let old ← get
    let index := old.streams.size
    set (old.connect 1 (.sink []))
    let ending ← observed (together begin (apart inner (inner.run { last := true } part)))
    let m ← get
    let isEndless := ending = some .endless
    match ending with
    | none | some .endless => pure ()
    | some flow => throw flow
    let text := m.collected index
    let m := if isEndless then { old.returned m with elapsed := old.elapsed } else m
    set { m with
      status := old.status
      streams := m.streams.setIfInBounds index (.source text false)
      descriptors := (0, index) :: old.descriptors.filter (·.1 ≠ 0) }
    pipelineFrom inner begin rest
    let m ← get
    let needsMore := match m.streams[index]? with
      | some (.source _ ended) => ended
      | _ => true
    if isEndless && needsMore then throw .endless
    set { m with descriptors := old.descriptors }

/-- Runs a part in the background: it is as if it took no time, until it is waited
for. -/
def background (inner : Inner) (body : Script) : Run Unit := do
  let old ← get
  let process := old.processes + 1
  set { (old.connect 0 .nowhere) with processes := process }
  let ending ← observed (apart inner (inner.run { last := true } body))
  let new ← get
  match ending with
  | none | some .endless => pure ()
  | some flow => throw flow
  let job : Job := ⟨process, if ending.isNone then some new.elapsed else none, new.status⟩
  set { old.returned new with elapsed := old.elapsed, jobs := job :: old.jobs, status := 0 }

/-- Does something about the signals that have come meanwhile. -/
def answerSignals (inner : Inner) : Run Unit := do
  let m ← get
  if m.outerTraps.isSome then return ()
  set { m with pending := [] }
  for signal in m.pending do
    match m.traps.lookup signal with
    | some action =>
      let status := (← get).status
      inner.source {} (← sourceOf action)
      modify fun m => { m with status := status }
    | none => pure ()

/-- Sends a signal. -/
def signal (process signal : Nat) : Run Bool := do
  let m ← get
  if process = m.process then
    match (m.outerTraps.getD m.traps).lookup signal with
    | some action =>
      if signal = 9 then throw (.killed process signal)
      else if action ≠ "" then set { m with pending := m.pending ++ [signal] }
    | none => if Signal.isDeadly signal then throw (.killed process signal)
    return true
  else
    let running (job : Job) : Bool := job.process = process && job.ends.all (m.elapsed < ·)
    if m.jobs.any running then
      if Signal.isDeadly signal then
        let ended (job : Job) : Job := { job with ends := some m.elapsed, status := 128 + signal }
        set { m with jobs := m.jobs.map fun job => if running job then ended job else job }
      return true
    return process = 1

end Run

end PullReview.Rehearsal
