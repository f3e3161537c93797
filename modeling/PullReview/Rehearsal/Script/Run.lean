import PullReview.Rehearsal.Script.Launch

/-!
# Running scripts

Commands change the machine in their order until one of them ends the run. How
deep scripts are nested and how often loops repeat is bounded by fuel; what
needs more of it than there is counts as endless.
-/

namespace PullReview.Rehearsal

namespace Script

/-! ## Redirections -/

/-- A redirection whose words have been expanded. -/
inductive Prepared where
  | read (stream : Nat) (name : String)
  | write (stream : Nat) (name : String) (opening : Opening)
  | join (stream : Nat) (other : Option Nat)
  | text (stream : Nat) (text : String)

/-- Expands the words of a redirection. -/
def prepared (e : Expander) : Redirection → Run Prepared
  | .read stream source => return .read stream (← e.text source)
  | .write stream target opening => return .write stream (← e.text target) opening
  | .both stream target => return .write stream (← e.text target) .append
  | .join stream target => do
    let text ← e.text target
    if text = "-" then return .join stream none
    else if text.length = 1 && text.toList.all Char.isDigit then return .join stream text.toNat?
    else Run.fail "Syntax error: Bad fd number"
  | .here stream document => do
    let word := (← get).documents.getD document []
    return .text stream (Glyph.text (← e.word word))

/-- Puts a descriptor where another one leads, or closes it. -/
def joined (stream : Nat) (other : Option Nat) : Run Unit := do
  let m ← get
  let others := m.descriptors.filter (·.1 ≠ stream)
  match other with
  | none => set { m with descriptors := others }
  | some other =>
    match m.descriptors.lookup other with
    | some index => set { m with descriptors := (stream, index) :: others }
    | none => Run.fail s!"{other}: Bad file descriptor"

/-- The descriptor that a name of a device stands for. -/
def deviceStream? : String → Option Nat
  | "/dev/stdin" => some 0
  | "/dev/stdout" => some 1
  | "/dev/stderr" => some 2
  | _ => none

/-- Carries out a redirection. -/
def carryOut : Prepared → Run Unit
  | .text stream text => modify fun m => m.connect stream (.source text false)
  | .join stream other => joined stream other
  | .read stream name => do
    let m ← get
    match deviceStream? name, m.source name with
    | some other, _ => joined stream (some other)
    | none, .ok source => set (m.connect stream source)
    | none, .error fault =>
      let reason := if Machine.isMissing fault then "No such file" else fault.reason
      Run.fail s!"cannot open {name}: {reason}"
  | .write stream name opening => do
    let m ← get
    let isThere := (m.tree.content? (pathOf name)).isSome
    if opening = .replace && m.options.contains 'C' && isThere then
      Run.fail s!"cannot create {name}: File exists"
    match deviceStream? name, m.target name (opening = .append) with
    | some other, _ => joined stream (some other)
    | none, .ok (m, target) => set (m.connect stream target)
    | none, .error fault =>
      let reason := if Machine.isMissing fault then "Directory nonexistent" else fault.reason
      Run.fail s!"cannot create {name}: {reason}"

/-- Carries out redirections in their order, and tells whether that has worked. -/
def redirect (e : Expander) (redirections : List Redirection) : Run Bool := do
  let prepared ← redirections.mapM (prepared e)
  match ← Run.observed (prepared.forM carryOut) with
  | none => return true
  | some .fails => return false
  | some flow => throw flow

/-- Puts the descriptors back to where they led. -/
def reconnect (old : List (Nat × Nat)) : Run Unit := modify fun m => { m with descriptors := old }

/-! ## Simple commands -/

/-- Commands of which settings among the arguments stay whole. -/
def settingCommands : List String := ["export", "readonly", "local"]

/-- The fields of the words of a command. -/
def commandFields (e : Expander) : List String → List Word → Run (List String)
  | done, [] => return done
  | done, word :: rest => do
    let isWhole := done.head?.any settingCommands.contains && (Word.setting? word).isSome
    let fields ← if isWhole then do
        let text ← e.setting word
        pure [text]
      else e.fields [word]
    commandFields e (done ++ fields) rest

/-- Puts variables back to what they were. -/
def restoreVariables (old : List (String × Option Variable)) : Run Unit :=
  old.forM fun (name, before) => modify fun m =>
    match before with
    | some v => m.change name fun _ => v
    | none => { m with values := m.values.filter (·.1 ≠ name) }

/-- Calls a function. -/
def call (inner : Inner) (manner : Manner) (body : Script) (arguments : List String) :
    Run Unit := do
  let old ← get
  set { old with parameters := arguments, loops := 0, locals := [] :: old.locals }
  let ending ← Run.observed (inner.run { tested := manner.tested } body)
  let frame := (← get).locals.headD []
  restoreVariables frame
  modify fun m => { m with parameters := old.parameters, loops := old.loops, locals := old.locals }
  match ending with
  | none => return ()
  | some (.returns status) => modify fun m => { m with status := status }
  | some flow => throw flow

/-- Runs a program by its name. -/
def external (inner : Inner) (manner : Manner) (path : String) (name : String)
    (arguments : List String) : Run Unit := do
  let m ← get
  let replaces := manner.last && !(← Run.hasTraps)
  match m.search path name with
  | .ok found =>
    Run.program replaces do
      modify Launch.arranged
      Launch.launch inner Launch.usualDepth name arguments found
  | .error fault =>
    let (reason, status) := Machine.absence fault
    Run.report s!"{name}: {reason}"
    modify fun m => { m with status := if name.toList.contains '/' then status else 127 }

/-- Puts a program in the place of the script. -/
def exec (inner : Inner) (words : List String) : Run Unit := do
  match words with
  | [] => modify fun m => { m with status := 0 }
  | name :: arguments =>
    let m ← get
    match m.search m.searchPath name with
    | .ok found =>
      Run.program true do
        modify Launch.arranged
        Launch.launch inner Launch.usualDepth name arguments found
    | .error fault =>
      let (reason, status) := Machine.absence fault
      Builtin.warn "exec" s!"{name}: {reason}"
      throw (.exits status)

/-- Runs a command of the interpreter. An error in one that is not special has only
failed. -/
def builtin (inner : Inner) (isSpecial : Bool) (command : Builtin) (name : String)
    (arguments : List String) : Run Unit := do
  let ending ← Run.observed do
    let status ← command inner name arguments
    modify fun m => { m with status := status }
  match ending with
  | none => return ()
  | some .fails => if isSpecial then throw .fails
  | some flow => throw flow

/-- Runs a command by its expanded words; functions only if they count. -/
def perform (inner : Inner) (manner : Manner) : Nat → Bool → List String → Run Unit
  | 0, _, _ => throw .endless
  | _, _, [] => return ()
  | fuel + 1, knowsFunctions, name :: arguments => do
    let m ← get
    match (m.functions.lookup name).filter fun _ => knowsFunctions with
    | some body => call inner manner body arguments
    | none =>
      if name = "exec" then
        let (_, words) ← Builtin.options name "" arguments
        exec inner words
      else if name = "command" then
        let asks := ["-v", "-V"].contains (arguments.headD "")
        let words := match arguments with
          | "--" :: rest | "-p" :: rest => rest
          | words => words
        if asks then
          match arguments.getD 1 "" with
          | "" => modify fun m => { m with status := 0 }
          | asked =>
            match Builtin.meaning Builtin.names m asked (arguments.head? = some "-v") with
            | some text =>
              Run.write (text ++ "\n")
              modify fun m => { m with status := 0 }
            | none =>
              if arguments.head? = some "-V" then Run.write s!"{asked}: not found\n"
              modify fun m => { m with status := 127 }
        else
          match words with
          | [] => modify fun m => { m with status := 0 }
          | words =>
            match ← Run.observed (perform inner manner fuel false words) with
            | none | some .fails => return ()
            | some flow => throw flow
      else if name = "type" then builtin inner false Builtin.type name arguments
      else match Builtin.catalog.lookup name with
        | some action => builtin inner (specialNames.contains name) action name arguments
        | none => external inner manner m.searchPath name arguments

/-- Ends the script if a command has failed that should not. -/
def checked (manner : Manner) : Run Unit := do
  let m ← get
  if m.options.contains 'e' && !manner.tested && m.status ≠ 0 then throw (.exits m.status)

/-- What stands in front of a command that is shown before it runs. -/
def tracePrefix (e : Expander) : Run String := do
  let m ← get
  match (documentOf ((m.value? "PS4").getD "")).run { rest := [], documents := m.documents } with
  | .ok (word, source) =>
    set { m with documents := source.documents }
    return Glyph.text (← e.word word)
  | .error _ => return ""

/-- Runs a command of settings, words and redirections. -/
def simple (inner : Inner) (e : Expander) (manner : Manner) (line : Nat) (settings : List (String × Word))
    (words : List Word) (redirections : List Redirection) : Run Unit := do
  modify fun m => { m with line := line, answered := 0 }
  let fields ← commandFields e [] words
  let name := fields.headD ""
  let old ← get
  let isSpecial := Script.specialNames.contains name && (old.functions.lookup name).isNone
  if !(← redirect e redirections) then
    reconnect old.descriptors
    if isSpecial then throw .fails
  else
    let isLasting := fields.isEmpty || isSpecial
    let mut replaced := []
    let mut shown := []
    for (key, word) in settings do
      let value ← e.setting word
      replaced := (key, (← get).values.lookup key) :: replaced
      shown := shown ++ [s!"{key}={value}"]
      Run.assign key value
      if !isLasting || name = "exec" then
        modify fun m => m.change key fun v => { v with exported := true }
    if (← get).options.contains 'x' && !(shown.isEmpty && fields.isEmpty) then
      Run.complain ((← tracePrefix e) ++ " ".intercalate (shown ++ fields))
    if fields.isEmpty then modify fun m => { m with status := m.answered }
    let ending ← Run.observed (perform inner manner (fields.length + 1) true fields)
    if name ≠ "exec" || 1 < fields.length then reconnect old.descriptors
    if !isLasting then restoreVariables replaced
    match ending with
    | none => pure ()
    | some flow => throw flow

/-! ## Compound commands -/

/-- Goes through a loop once and tells whether to go on. -/
def looped (body : Run Bool) : Run Bool := do
  modify fun m => { m with loops := m.loops + 1 }
  let goesOn ← tryCatch body fun flow => do
    modify fun m => { m with loops := m.loops - 1 }
    match flow with
    | .continues n => if n ≤ 1 then pure () else throw (.continues (n - 1))
    | .breaks n => if n ≤ 1 then pure () else throw (.breaks (n - 1))
    | flow => throw flow
    modify fun m => { m with loops := m.loops + 1 }
    return !(flow matches .breaks _)
  modify fun m => { m with loops := m.loops - 1 }
  return goesOn

/-- Runs a body for each of several values. -/
def forEach (body : String → Run Unit) : List String → Run Unit
  | [] => return ()
  | value :: rest => do
    let goesOn ← looped do
      body value
      return true
    if goesOn then forEach body rest

/-- The body of the first branch that fits. -/
def branch? (e : Expander) (subject : String) : List (List Word × Script) → Run (Option Script)
  | [] => return none
  | (patterns, body) :: rest => do
    let fits ← patterns.anyM fun pattern => do
      let glyphs ← e.word pattern
      return Pattern.fits (Glyph.patternOf glyphs) subject.toList
    if fits then return some body else branch? e subject rest

/-- Runs a script, the scripts inside it by `inner`. -/
def step (inner : Inner) (e : Expander) (manner : Manner) (script : Script) : Run Unit := do
  let tested : Manner := { tested := true }
  let within : Manner := { tested := manner.tested }
  let status : Run Nat := return (← get).status
  let setStatus (status : Nat) : Run Unit := modify fun m => { m with status := status }
  if (← get).options.contains 'n' then return ()
  match script with
  | .nothing => return ()
  | .command line settings words redirections =>
    simple inner e manner line settings words redirections
    checked manner
  | .sequence first second =>
    inner.run within first
    inner.run manner second
  | .both first second =>
    inner.run tested first
    if (← status) = 0 then inner.run manner second
  | .either first second =>
    inner.run tested first
    if (← status) ≠ 0 then inner.run manner second
  | .piped parts =>
    Run.pipelineFrom inner (← get).elapsed parts
    checked manner
  | .negated body =>
    inner.run tested body
    setStatus (if (← status) = 0 then 1 else 0)
  | .background body => Run.background inner body
  | .choice test yes no =>
    inner.run tested test
    if (← status) = 0 then inner.run manner yes
    else
      setStatus 0
      inner.run manner no
  | .loop wanted test body => inner.loop within wanted test body 0
  | .each line name items body =>
    modify fun m => { m with line := line }
    let values ← e.fields items
    setStatus 0
    forEach (fun value => do
      Run.assign name value
      inner.run within body) values
  | .branches line subject cases =>
    modify fun m => { m with line := line }
    let subject ← e.text subject
    match ← branch? e subject cases with
    | some .nothing => setStatus 0
    | some body => inner.run manner body
    | none => setStatus 0
  | .apart line body redirections =>
    modify fun m => { m with line := line }
    let old ← get
    if ← redirect e redirections then
      let part := inner.run { manner with last := true } body
      if manner.last && !(← Run.hasTraps) then part else Run.apart inner part
    reconnect old.descriptors
    checked manner
  | .redirected line body redirections =>
    modify fun m => { m with line := line }
    let old ← get
    if ← redirect e redirections then
      let ending ← Run.observed (inner.run within body)
      reconnect old.descriptors
      match ending with
      | some flow => throw flow
      | none => pure ()
    else reconnect old.descriptors
  | .definition name body =>
    modify fun m => { m with
      functions := (name, body) :: m.functions.filter (·.1 ≠ name)
      status := 0 }

/-- Goes through a loop once and then on with the rest of it. The status at its end is
that of its body. -/
def loopStep (inner : Inner) (manner : Manner) (wanted : Bool) (test body : Script) (last : Nat) :
    Run Unit := do
  let goesOn ← looped do
    inner.run { tested := true } test
    if decide ((← get).status = 0) = wanted then
      inner.run manner body
      return true
    else
      modify fun m => { m with status := last }
      return false
  if goesOn then inner.loop manner wanted test body (← get).status

/-- Reads a line of commands, runs it and then goes on with the rest of the text. -/
def sourceStep (inner : Inner) (manner : Manner) (source : Source) : Run Unit := do
  let m ← get
  match Script.next?.run { source with documents := m.documents, aliases := m.aliases } with
  | .error complaint =>
    set { m with line := complaint.line }
    Run.fail complaint.text
  | .ok (none, _) => return ()
  | .ok (some script, source) =>
    set { m with documents := source.documents }
    let isEnd := source.held matches some .ending
    inner.run { manner with last := manner.last && isEnd } script
    inner.source manner source

mutual

/-- Runs a script. -/
def run : Nat → Manner → Script → Run Unit
  | 0, _, _ => throw .endless
  | fuel + 1, manner, script => do
    let inner : Inner := ⟨run fuel, runSource fuel, runLoop fuel⟩
    step inner ⟨expandWord fuel, Run.output inner⟩ manner script
    Run.answerSignals inner

/-- Runs a text line by line. -/
def runSource : Nat → Manner → Source → Run Unit
  | 0, _, _ => throw .endless
  | fuel + 1, manner, text => sourceStep ⟨run fuel, runSource fuel, runLoop fuel⟩ manner text

/-- Runs a loop. -/
def runLoop : Nat → Manner → Bool → Script → Script → Nat → Run Unit
  | 0, _, _, _, _, _ => throw .endless
  | fuel + 1, manner, wanted, test, body, last =>
    loopStep ⟨run fuel, runSource fuel, runLoop fuel⟩ manner wanted test body last

/-- Expands the pieces of a word. -/
def expandWord : Nat → Word → Run (List Glyph)
  | 0, _ => throw .endless
  | fuel + 1, word =>
    Expander.pieces ⟨expandWord fuel, Run.output ⟨run fuel, runSource fuel, runLoop fuel⟩⟩ word

end

/-- How scripts run that are no part of others. -/
def inner : Inner :=
  let fuel := 50000
  ⟨run fuel, runSource fuel, runLoop fuel⟩

end Script

end PullReview.Rehearsal
