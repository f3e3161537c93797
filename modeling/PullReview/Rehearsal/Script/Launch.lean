import PullReview.Rehearsal.Script.Builtin
import PullReview.Rehearsal.Tools.Files
import PullReview.Rehearsal.Tools.Lines
import PullReview.Rehearsal.Tools.Output

/-!
# Starting programs

A program is a tool of the host, one that starts others, or a file that the
interpreter reads. It runs in the state of a process of its own and gives a
status. Programs inside others have fewer words to go by, which bounds how deep
they can be.
-/

namespace PullReview.Rehearsal

namespace Tool

/-!
## The tools of the host

The tools by their names. Some more start other programs and are part of the
machine's own work.
-/

def catalog : List (String × Tool) := [
  ("true", fun _ _ => return 0), ("false", fun _ _ => return 1),
  ("echo", echo), ("printf", printf), ("sleep", sleep), ("printenv", printenv),
  ("test", test false), ("[", test true), ("uname", uname),
  ("cat", cat), ("head", head), ("tail", tail), ("wc", wc), ("tac", tac), ("rev", rev),
  ("uniq", uniq), ("sort", sort), ("cut", cut), ("tee", tee), ("tr", tr), ("yes", yes), ("seq", seq),
  ("ls", ls), ("basename", basename), ("dirname", dirname), ("pwd", pwd), ("mkdir", mkdir),
  ("rmdir", rmdir), ("rm", rm), ("touch", touch), ("cp", cp), ("mv", mv), ("ln", ln),
  ("chmod", chmod), ("readlink", readlink), ("realpath", realpath)]

/-- Programs that start others. -/
def starters : List String := ["sh", "dash", "env", "timeout"]

end Tool

namespace Launch

/-! ## Programs started -/

/-- The directories of the host in which its programs are. -/
def toolPlaces : List (List String) := [["usr", "local", "bin"], ["usr", "bin"]]

/-- Takes the letter that announces a script out of the options in front, and tells
whether it is there. -/
def commandLetter : List String → Bool × List String
  | [] => (false, [])
  | word :: rest =>
    match word.toList with
    | '-' :: c :: cs =>
      if c = '-' then (false, word :: rest)
      else
        let (found, others) := commandLetter rest
        let kept := (c :: cs).filter (· ≠ 'c')
        (found || (c :: cs).contains 'c',
          (if kept.isEmpty then [] else [String.ofList ('-' :: kept)]) ++ others)
    | _ => (false, word :: rest)

/-- Variables that every script has, and whether the environment can set them. -/
def givenVariables : List (String × String × Bool) := [
  ("IFS", " \t\n", false),
  ("PATH", "/usr/local/sbin:/usr/local/bin:/usr/sbin:/usr/bin:/sbin:/bin", true),
  ("PS1", "# ", true), ("PS2", "> ", true), ("PS4", "+ ", true), ("OPTIND", "1", false)]

/-- The variables with which a script begins in an environment. -/
def variablesIn (environment : List (String × Variable)) : List (String × Variable) :=
  let given := givenVariables.map fun (name, value, isOpen) =>
    match environment.lookup name with
    | some v => (name, if isOpen then v else { v with value := some value })
    | none => (name, { value := some value })
  given ++ environment.filter fun v => Script.isName v.1 && (given.lookup v.1).isNone

/-- The state in which the interpreter begins. -/
def fresh (name : String) (m : Machine) : Machine :=
  let here := Octets.ofText (Path.absolute m.tree.here).text
  let leadsHere := (m.value? "PWD").any fun text =>
    text.startsWith "/" && (m.tree.directory (pathOf text)).toOption = some m.tree.here
  let m := { m with values := variablesIn m.values }
  let m := m.change "PPID" fun v => { v with value := some (toString (m.process - 1)) }
  let m := { m with
    name := name
    aliases := []
    parameters := []
    line := 0
    status := 0
    origin := none }
  if leadsHere then m else m.change "PWD" fun v => { v with value := some here, exported := true }

/-- A machine with its variables in the order in which a script hands them on. -/
def arranged (m : Machine) : Machine := { m with values := Machine.grouped m.values }

/-- Runs a script: one given as a word, a file or the input. -/
def interpret (inner : Inner) (name : String) (words : List String) : Run Nat := do
  modify (fresh name)
  let refuse (text : String) : Run Unit := Run.fail text
  let (isCommand, words) := commandLetter words
  let (words, _) ← Builtin.readOptions refuse (words.length + 1) words
  let run (manner : Manner) (text name : String) (parameters : List String) : Run Nat := do
    modify fun m => { m with name := name, parameters := parameters, line := 1 }
    Run.concluded inner do inner.source manner (← Run.sourceOf text)
    return (← get).status
  match isCommand, words with
  | true, [] => Run.fail "-c requires an argument"
  | true, text :: rest => run { last := true } text (rest.headD name) rest.tail
  | false, [] => run {} (← Run.readAll) name []
  | false, file :: parameters =>
    match (← get).source file with
    | .error fault =>
      let reason := if Machine.isMissing fault then "No such file" else fault.reason
      Run.fail s!"cannot open {file}: {reason}"
    | .ok (.file place _ _) =>
      run {} (Octets.ofBytes ((← get).contentAt place)) file parameters
    | .ok _ => return 0

/-- The program that the first line of a file names, with its words. -/
def firstLine? (content : String) : Option (String × List String) :=
  match content.toList with
  | '#' :: '!' :: cs =>
    let line := (cs.takeWhile (· ≠ '\n')).dropWhile (· = ' ')
    let program := line.takeWhile (· ≠ ' ')
    let rest := (((line.drop program.length).dropWhile (· = ' ')).reverse.dropWhile (· = ' ')).reverse
    if program.isEmpty then none
    else some (String.ofList program, if rest.isEmpty then [] else [String.ofList rest])
  | _ => none

/-- The search path of programs that have none. -/
def usualPath : String := "/bin:/usr/bin"

/-- Looks a program up as other programs do. -/
def lookUp (name : String) : Run (Except FileFault (String × List String)) := do
  let m ← get
  return m.search ((m.value? "PATH").getD usualPath) name

def envOptions : OptionSet where
  flags := "i0v"
  valued := "uC"
  long := [("ignore-environment", 'i'), ("unset", 'u'), ("chdir", 'C')]
  failure := 125
  ordered := true

/-- Changes the environment as words say, and tells what is left of them. -/
def changeEnvironment (words : Call.Words) : Run (List String) := do
  let (alone, operands) := match words.operands with
    | "-" :: rest => (true, rest)
    | operands => (false, operands)
  if alone || words.has 'i' then modify fun m => { m with values := [] }
  for (letter, name) in words.options do
    if letter = 'u' then modify fun m => { m with values := m.values.filter (·.1 ≠ name) }
  let isSetting (word : String) : Bool := word.toList.contains '='
  for word in operands.takeWhile isSetting do
    let name := word.toList.takeWhile (· ≠ '=')
    let value := String.ofList (word.toList.drop (name.length + 1))
    modify fun m => m.change (String.ofList name) fun _ => { value := some value, exported := true }
  return operands.dropWhile isSetting

def timeoutOptions : OptionSet where
  flags := "fvp"
  valued := "ks"
  long := [("foreground", 'f'), ("preserve-status", 'p'), ("signal", 's'), ("kill-after", 'k')]
  failure := 125
  ordered := true

/-- Drops what has been written after a time. -/
def silencedAfter (time : Nat) (m : Machine) : Machine :=
  { m with streams := m.streams.map fun
      | .sink written => .sink (written.filter (·.1 ≤ time))
      | stream => stream }

/-- Runs something for so long at most. -/
def limited (words : Call.Words) (limit : Option Nat) (body : Run Unit) : Run Nat := do
  let begin := (← get).elapsed
  let ending ← Run.observed body
  let m ← get
  let isOver := limit.any fun d => 0 < d && (ending = some .endless || begin + d < m.elapsed)
  if isOver then
    let time := begin + limit.getD 0
    set (silencedAfter time { m with elapsed := time })
    let signal := ((words.value? 's').bind Signal.ofText?).getD 15
    if signal = 9 then throw (.killed m.process signal)
    return if words.has 'p' then 128 + signal else 124
  else match ending with
    | some flow => throw flow
    | none => return m.status

/-- Runs the program at a path and a place by the name it is called by; `fuel` bounds
how many programs start others. -/
def launch (inner : Inner) : Nat → String → List String → String × List String → Run Nat
  | 0, _, _, _ => throw .endless
  | fuel + 1, name, words, (path, place) => do
    let command := place.getLastD ""
    let start (words : List String) (refuse : String → FileFault → Run Nat) : Run Nat := do
      let called := words.headD ""
      match ← lookUp called with
      | .error fault => refuse called fault
      | .ok found => launch inner fuel called words.tail found
    let status : FileFault → Nat
      | .notFound _ => 127
      | _ => 126
    let refuse (called : String) (fault : FileFault) : Run Nat := do
      Run.complain s!"{name}: {Octets.quoted called}: {fault.reason}"
      return status fault
    if !toolPlaces.contains place.dropLast then
      let content := Octets.ofBytes ((← get).contentAt place)
      match firstLine? content with
      | some (program, more) => start ((program :: more) ++ path :: words) fun _ fault => do
          let (reason, status) := Machine.absence fault
          Run.complain s!"{(← get).name}: {(← get).line}: {name}: {reason}"
          return status
      | none => interpret inner "sh" (path :: words)
    else match command with
      | "sh" | "dash" => interpret inner name words
      | "env" =>
        Tool.withOptions envOptions (fun _ words => do
          let rest ← changeEnvironment words
          let m ← get
          match (words.value? 'C').map fun name => m.tree.directory (pathOf name) with
          | some (.error fault) =>
            Run.complain s!"{name}: cannot change directory to {fault.path.text}: {fault.reason}"
            return 125
          | some (.ok place) => modify fun m => { m with tree := { m.tree with here := place } }
          | none => pure ()
          if rest.isEmpty then
            (← get).environment.forM fun (key, value) => Run.write s!"{key}={value}\n"
            return 0
          start rest refuse) name words
      | "timeout" =>
        Tool.withOptions timeoutOptions (fun _ words => do
          match words.operands with
          | duration :: command :: arguments =>
            match Tool.duration? duration with
            | none => Tool.misused name s!"invalid time interval {Octets.quoted duration}" 125
            | some limit =>
              limited words limit (Run.program false (start (command :: arguments) fun called fault => do
                Run.complain s!"{name}: failed to run command {Octets.quoted called}: {fault.reason}"
                return status fault))
          | _ =>
            Run.complain s!"Try '{name} --help' for more information."
            return 125) name words
      | command =>
        match Tool.catalog.lookup command with
        | some tool => tool name words
        | none => return 127

/-- How many programs may start others in a row. -/
def usualDepth : Nat := 1000

end Launch

end PullReview.Rehearsal
