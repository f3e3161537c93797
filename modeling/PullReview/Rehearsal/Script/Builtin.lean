import PullReview.Rehearsal.Script.Format
import PullReview.Rehearsal.Script.Process
import PullReview.Rehearsal.Script.Question

/-!
# Commands of the interpreter itself

These commands change the state of the script or look at it, which no program of
its own could. What they complain about goes by the name and the line of the
script. An error in a special one ends the script; any other has only failed.
-/

namespace PullReview.Rehearsal

/-- A command by its name and its arguments; it gives a status. -/
abbrev Builtin := Inner → String → List String → Run Nat

namespace Builtin

/-- Complains in the name of a command. -/
def warn (name text : String) : Run Unit := Run.reportAs (some name) text

/-- Complains in the name of a command, and gives it up. -/
def fail {α : Type} (name text : String) : Run α := do
  warn name text
  modify fun m => { m with status := 2 }
  throw .fails

/-- A number that is not negative. -/
def number (name text : String) : Run Nat := do
  match (Numeral.whole? 10 text).filter fun n => 0 ≤ n && n ≤ 2147483647 with
  | some n => return n.toNat
  | none => fail name s!"Illegal number: {text}"

/-- The letters of the options in front, and what follows them. -/
def options (name known : String) : List String → Run (List Char × List String)
  | [] => return ([], [])
  | word :: rest => do
    match word.toList with
    | ['-', '-'] => return ([], rest)
    | '-' :: c :: cs =>
      match (c :: cs).find? fun c => !known.toList.contains c with
      | some c => fail name s!"Illegal option -{c}"
      | none =>
        let (more, rest) ← options name known rest
        return (c :: cs ++ more, rest)
    | _ => return ([], word :: rest)

/-- A command that knows no options. -/
def plain (command : Builtin) : Builtin := fun inner name words => do
  let (_, words) ← options name "" words
  command inner name words

/-- A value in single quotes. -/
def quoted (value : String) : String :=
  "'" ++ String.join (value.toList.map fun c => if c = '\'' then "'\"'\"'" else String.singleton c) ++ "'"

/-- Writes its arguments with blanks between them and escapes resolved. -/
def echo : Builtin := fun _ _ words => do
  let (isOpen, words) := match words with
    | "-n" :: rest => (true, rest)
    | words => (false, words)
  let text := " ".intercalate words
  let (text, stop) := Format.unescaped .script (text.length + 1) text.toList
  if (← get).descriptors.lookup 1 = none then
    warn "echo" "echo: I/O error"
    return 1
  Run.write (if stop.isNone && !isOpen then text ++ "\n" else text)
  return 0

/-- Writes its arguments by a format; complaints come before the output. -/
def printf : Builtin := fun _ name words => do
  let (_, words) ← options name "" words
  match words with
  | [] => fail name "usage: printf format [arg ...]"
  | format :: arguments =>
    let (events, mistake) := Format.output .script format arguments
    for event in events do
      match event with
      | .warning text _ => warn name text
      | .text _ => pure ()
    let texts := events.map fun
      | .text text => text
      | .warning .. => ""
    Run.write (String.join texts)
    match mistake with
    | some text => fail name text
    | none =>
      return if events.any fun
          | .warning _ isFailure => isFailure
          | .text _ => false
        then 1 else 0

/-- Answers a question. -/
def test : Builtin := fun _ name words => do
  if name = "[" && words.getLast? ≠ some "]" then fail name "missing ]"
  else
    match Question.answer (← get) (if name = "[" then words.dropLast else words) with
    | .ok answer => return if answer then 0 else 1
    | .error mistake => fail name mistake.message

/-- Goes to another directory. -/
def cd : Builtin := fun _ name words => do
  let (_, words) ← options name "LP" words
  let m ← get
  let wanted := match words with
    | [] => m.value? "HOME"
    | word :: _ => if word = "-" then m.value? "OLDPWD" else some word
  match wanted.filter (· ≠ "") with
  | none =>
    if words.head? = some "-" then Run.write ((m.value? "PWD").getD "" ++ "\n")
    return 0
  | some directory =>
    match m.tree.directory (pathOf directory) with
    | .error _ => fail name s!"can't cd to {directory}"
    | .ok place =>
      let old := (m.value? "PWD").getD ""
      let path := Path.ofString (Octets.toText directory)
      -- what is told afterwards goes by the names on the way
      let base := if path.isAbsolute then [] else (Path.ofString (Octets.toText old)).parts
      let named := Path.walk (base ++ path.parts)
      let shown := if (m.tree.directory (.absolute named)).toOption = some place then named else place
      let text := Octets.ofText (Path.absolute shown).text
      let setTo (value : String) (v : Variable) : Variable :=
        { v with value := some value, exported := true }
      let m := (m.change "OLDPWD" (setTo old)).change "PWD" (setTo text)
      set { m with tree := { m.tree with here := place } }
      if words.head? = some "-" then Run.write (text ++ "\n")
      return 0

def pwd : Builtin := fun _ name words => do
  discard <| options name "LP" words
  let m ← get
  Run.write ((m.value? "PWD").getD (Octets.ofText (Path.absolute m.tree.here).text) ++ "\n")
  return 0

/-- Marks variables and may set them. -/
def marking (flagged : Variable → Bool) (mark : Variable → Variable) : Builtin :=
  fun _ name words => do
    let (_, words) ← options name "p" words
    if words.isEmpty then
      let marked := (← get).values.filter fun v => flagged v.2
      for (target, v) in marked.mergeSort fun a b => decide (a.1 ≤ b.1) do
        Run.write (s!"{name} {target}" ++ (v.value.elim "" fun value => "=" ++ quoted value) ++ "\n")
    for word in words do
      let cs := word.toList
      let key := String.ofList (cs.takeWhile (· ≠ '='))
      if !Script.isName key then fail name s!"{key}: bad variable name"
      if key.length < cs.length then
        if ((← get).values.lookup key).any (·.fixed) then fail name s!"{key}: is read only"
        Run.assign key (String.ofList (cs.drop (key.length + 1)))
      modify fun m => m.change key mark
    return 0

/-- Makes variables of a function its own. -/
def local_ : Builtin := fun _ name words => do
  let m ← get
  match m.locals with
  | [] => fail name "not in a function"
  | _ =>
    for word in words do
      let cs := word.toList
      let key := String.ofList (cs.takeWhile (· ≠ '='))
      if !Script.isName key then fail name s!"{key}: bad variable name"
      modify fun m => { m with
        locals := match m.locals with
          | frame :: frames => ((key, m.values.lookup key) :: frame) :: frames
          | [] => [] }
      if key.length < cs.length then Run.assign key (String.ofList (cs.drop (key.length + 1)))
    return 0

def unset : Builtin := fun _ name words => do
  let (letters, words) ← options name "vf" words
  for word in words do
    if letters.contains 'f' then
      modify fun m => { m with functions := m.functions.filter (·.1 ≠ word) }
    else
      if !Script.isName word then fail name s!"{word}: bad variable name"
      if ((← get).values.lookup word).any (·.fixed) then fail name s!"{word}: is read only"
      modify fun m => { m with values := m.values.filter (·.1 ≠ word) }
  return 0

/-- Drops parameters. -/
def shift : Builtin := fun _ name words => do
  let n ← match words with
    | [] => pure 1
    | word :: _ => number name word
  let m ← get
  if m.parameters.length < n then fail name "can't shift that many"
  set { m with parameters := m.parameters.drop n }
  return 0

/-- The options of scripts by letter and by name. -/
def optionNames : List (Char × String) := [('e', "errexit"), ('f', "noglob"), ('I', "ignoreeof"),
  ('i', "interactive"), ('m', "monitor"), ('n', "noexec"), ('s', "stdin"), ('x', "xtrace"),
  ('v', "verbose"), ('V', "vi"), ('E', "emacs"), ('C', "noclobber"), ('a', "allexport"),
  ('b', "notify"), ('u', "nounset")]

/-- Turns an option on or off. -/
def turn (on : Bool) (letter : Char) : Run Unit :=
  modify fun m =>
    let others := m.options.filter (· ≠ letter)
    { m with options := if on then
        (optionNames.map (·.1)).filter fun c => c = letter || others.contains c
      else others }

/-- Turns options of the script on and off as words say; what is left of them, and
whether they have been ended explicitly. -/
def readOptions (complain : String → Run Unit) : Nat → List String → Run (List String × Bool)
  | 0, words => return (words, false)
  | _, [] => return ([], false)
  | fuel + 1, word :: rest => do
    match word.toList with
    | ['-', '-'] => return (rest, true)
    | ['-'] => return (rest, false)
    | sign :: letters =>
      if (sign = '-' || sign = '+') && !letters.isEmpty then
        let on := sign = '-'
        let mut rest := rest
        for letter in letters do
          if letter = 'o' then
            match rest with
            | option :: others =>
              match optionNames.find? (·.2 = option) with
              | some (c, _) => turn on c
              | none => complain s!"Illegal option -o {option}"
              rest := others
            | [] => pure ()
          else if (optionNames.lookup letter).isSome then turn on letter
          else complain ("Illegal option " ++ String.ofList [sign, letter])
        readOptions complain fuel rest
      else return (word :: rest, false)
    | [] => return (word :: rest, false)

/-- Changes options and parameters, or shows variables. -/
def set_ : Builtin := fun _ name words => do
  if words.isEmpty then
    for (key, v) in (← get).values.mergeSort fun a b => decide (a.1 ≤ b.1) do
      match v.value with
      | some value => Run.write (s!"{key}=" ++ quoted value ++ "\n")
      | none => pure ()
    return 0
  let (rest, ended) ← readOptions (fail name) (words.length + 1) words
  if ended || !rest.isEmpty then modify fun m => { m with parameters := rest }
  return 0

/-- Cuts a line into so many texts at most; the last takes all that is left. -/
def splitInto (separators : List Char) : Nat → List Glyph → List String
  | 0, _ => []
  | n + 1, glyphs =>
    let isBlank (g : Glyph) : Bool := match g with
      | .loose c => separators.contains c && (c = ' ' || c = '\t' || c = '\n')
      | _ => false
    let isSeparator (g : Glyph) : Bool := match g with
      | .loose c => separators.contains c
      | _ => false
    let glyphs := glyphs.dropWhile isBlank
    let field := glyphs.takeWhile (!isSeparator ·)
    let rest := (glyphs.drop field.length).dropWhile isBlank
    let behind := match rest with
      | g :: more => if isSeparator g then more.dropWhile isBlank else rest
      | [] => []
    if n = 0 then
      let trimmed := (glyphs.reverse.dropWhile isBlank).reverse
      [Glyph.text (if behind.isEmpty then field else trimmed)]
    else Glyph.text field :: splitInto separators n behind

/-- The characters of a line, and how many bytes it took; a backslash takes the
meaning of a separator or a line end away. -/
def lineFrom (raw : Bool) : Nat → List Char → List Glyph × Nat × Bool
  | 0, _ | _, [] => ([], 0, false)
  | fuel + 1, c :: cs =>
    let add (glyph : Option Glyph) (used : Nat) (rest : List Char) : List Glyph × Nat × Bool :=
      let (line, count, ended) := lineFrom raw fuel rest
      (glyph.toList ++ line, count + used, ended)
    if c = '\n' then ([], 1, true)
    else if c = '\\' && !raw then
      match cs with
      | '\n' :: rest => add none 2 rest
      | d :: rest => add (some (.solid d)) 2 rest
      | [] => ([], 1, false)
    else if c = '\x00' then add none 1 cs
    else add (some (.loose c)) 1 cs

/-- The options of a call that reads a line: whether backslashes are kept, and what
follows the options. A text to ask with is not shown, for nobody is there to be asked. -/
def readingOptions (name : String) : Nat → Bool → List String → Run (Bool × List String)
  | 0, raw, words => return (raw, words)
  | fuel + 1, raw, words => do
    match words.map (·.toList) with
    | ['-', '-'] :: _ => return (raw, words.tail)
    | ('-' :: c :: cs) :: _ =>
      let letters := c :: cs
      let before := letters.takeWhile (· ≠ 'p')
      match before.find? (· ≠ 'r') with
      | some c => fail name s!"Illegal option -{c}"
      | none =>
        let raw := raw || !before.isEmpty
        let behind := letters.drop before.length
        if behind.isEmpty then readingOptions name fuel raw words.tail
        else if 1 < behind.length then readingOptions name fuel raw words.tail
        else if words.tail.isEmpty then fail name "No arg for -p option"
        else readingOptions name fuel raw (words.drop 2)
    | _ => return (raw, words)

/-- Reads a line into variables. -/
def read : Builtin := fun _ name words => do
  let (raw, words) ← readingOptions name (words.length + 1) false words
  if words.isEmpty then fail name "arg count"
  for word in words do
    if !Script.isName word then fail name s!"{word}: bad variable name"
  let m ← get
  let text := m.left 0
  let (line, count, ended) := lineFrom raw (text.length + 1) text.toList
  set (m.skip 0 count !ended)
  let texts := splitInto m.separators words.length line
  for (word, i) in words.zipIdx do
    Run.assign word (texts.getD i "")
  return if ended then 0 else 1

/-- The number of a signal as scripts name it. -/
def signalOf? (text : String) : Option Nat :=
  if text.toUpper.startsWith "SIG" then none else Signal.ofText? text.toUpper

def signalName (signal : Nat) : String :=
  if signal = 0 then "EXIT" else ((Signal.known.find? (·.2.1 = signal)).map (·.1)).getD (toString signal)

/-- Says what is to be done about signals, or shows it. -/
def trap : Builtin := fun _ name words => do
  let (_, words) ← options name "" words
  match words with
  | [] =>
    for (signal, action) in (← get).traps.mergeSort fun a b => decide (a.1 ≤ b.1) do
      Run.write (s!"trap -- " ++ quoted action ++ s!" {signalName signal}\n")
    return 0
  | first :: rest =>
    let (action, signals) := if rest.isEmpty then (none, [first])
      else (if first = "-" then none else some first, rest)
    for text in signals do
      match signalOf? text with
      | none =>
        Run.complain s!"trap: {text}: bad trap"
        return 1
      | some signal =>
        modify fun m => { m with
          traps := m.traps.filter (·.1 ≠ signal) ++ (action.map (signal, ·)).toList }
    return 0

/-- Sends signals, or names them. -/
def kill : Builtin := fun _ name words => do
  let send (signal : Nat) (targets : List String) : Run Nat :=
    targets.foldlM (fun status target => do
      let process ← number name target
      if ← Run.signal process signal then return status
      else
        warn name "No such process\n"
        return 1) 0
  let usage : Run Nat :=
    fail name ("Usage: kill [-s sigspec | -signum | -sigspec] [pid | job]... or\n" ++
      "kill -l [exitstatus]")
  match words with
  | [] => usage
  | "-l" :: [] =>
    Run.write "0\n"
    Signal.known.forM fun (known, _) => Run.write (known ++ "\n")
    return 0
  | "-l" :: status :: _ =>
    let n ← number name status
    Run.write (signalName (n % 128) ++ "\n")
    return 0
  | "-s" :: text :: targets =>
    match signalOf? text with
    | some signal => if targets.isEmpty then usage else send signal targets
    | none => fail name s!"invalid signal number or name: {text}"
  | "--" :: targets => if targets.isEmpty then usage else send 15 targets
  | first :: targets =>
    match first.toList with
    | '-' :: c :: cs =>
      match signalOf? (String.ofList (c :: cs)) with
      | some signal => if targets.isEmpty then usage else send signal targets
      | none => fail name s!"Illegal option -{c}"
    | _ => send 15 words

/-- Waits for processes in the background. -/
def wait : Builtin := fun _ name words => do
  let waitFor (job : Job) : Run Unit := do
    match job.ends with
    | some time => modify fun m => { m with elapsed := max m.elapsed time }
    | none => throw .endless
  if words.isEmpty then
    (← get).jobs.forM waitFor
    modify fun m => { m with jobs := [] }
    return 0
  words.foldlM (fun _ word => do
    let process ← number name word
    match (← get).jobs.find? (·.process = process) with
    | some job =>
      waitFor job
      let text := if 128 < job.status then Signal.obituary (job.status - 128) else ""
      if text ≠ "" then Run.complain text
      return job.status
    | none => return 127) 0

/-- Reads an option of a call into a variable. -/
def getopts : Builtin := fun _ name words => do
  match words with
  | known :: target :: given =>
    let m ← get
    let words := if given.isEmpty then m.parameters else given
    let index := ((m.value? "OPTIND").bind (·.toNat?)).getD 1
    let within := m.optionOffset
    let isQuiet := known.startsWith ":"
    let finish (index : Nat) : Run Nat := do
      Run.assign "OPTIND" (toString index)
      Run.assign target "?"
      return 1
    match (words[index - 1]?).map (·.toList) with
    | none => finish index
    | some ['-', '-'] => finish (index + 1)
    | some ('-' :: c :: cs) =>
      let letters := c :: cs
      let letter := letters.getD (within - 1) c
      let isLast := letters.length ≤ within
      let go (index within : Nat) : Run Unit := do
        Run.assign "OPTIND" (toString index)
        modify fun m => { m with optionOffset := within }
      let place := known.toList.dropWhile (· ≠ letter)
      if letter = ':' || place.isEmpty then
        if isLast then go (index + 1) 1 else go index (within + 1)
        Run.assign target "?"
        if isQuiet then Run.assign "OPTARG" (String.singleton letter)
        else
          modify fun m => { m with values := m.values.filter (·.1 ≠ "OPTARG") }
          Run.complain s!"Illegal option -{letter}"
        return 0
      else if place.getD 1 ' ' = ':' then
        let rest := letters.drop within
        if !rest.isEmpty then
          go (index + 1) 1
          Run.assign "OPTARG" (String.ofList rest)
          Run.assign target (String.singleton letter)
        else match words[index]? with
          | some value =>
            go (index + 2) 1
            Run.assign "OPTARG" value
            Run.assign target (String.singleton letter)
          | none =>
            go (index + 1) 1
            if isQuiet then
              Run.assign "OPTARG" (String.singleton letter)
              Run.assign target ":"
            else
              Run.complain s!"No arg for -{letter} option"
              Run.assign target "?"
        return 0
      else
        if isLast then go (index + 1) 1 else go index (within + 1)
        modify fun m => { m with values := m.values.filter (·.1 ≠ "OPTARG") }
        Run.assign target (String.singleton letter)
        return 0
    | some _ => finish index
  | _ => fail name "Usage: getopts optstring var [arg...]"

/-- Leaves loops. -/
def leave (flow : Nat → Flow) : Builtin := fun _ name words => do
  let n ← match words with
    | [] => pure 1
    | word :: _ => number name word
  if n = 0 then fail name "Illegal number: 0"
  let loops := (← get).loops
  if loops = 0 then return 0
  modify fun m => { m with status := 0 }
  throw (flow (min n loops))

/-- Ends a function or the script with a status, the present one if none is given. -/
def endWith (flow : Nat → Flow) : Builtin := fun _ name words => do
  match words with
  | [] => throw (flow (← get).status)
  | word :: _ => throw (flow ((← number name word) % 256))

/-- Runs something as part of what a command does. -/
def within (command : Option String) (body : Run Unit) : Run Unit := do
  let old := (← get).origin
  modify fun m => { m with origin := command }
  let ending ← Run.observed body
  modify fun m => { m with origin := old }
  match ending with
  | some flow => throw flow
  | none => return ()

/-- Runs its arguments as a script. -/
def eval : Builtin := fun inner name words => do
  let text := " ".intercalate words
  modify fun m => { m with status := 0 }
  within (some name) do inner.source {} (← Run.sourceOf text)
  return (← get).status

/-- Runs a file as part of the script. -/
def dot : Builtin := fun inner name words => do
  match words with
  | [] => return 0
  | file :: _ =>
    let m ← get
    let paths := if file.toList.contains '/' then [file] else Machine.candidates m.searchPath file
    match paths.findSome? fun path => (m.tree.content? (pathOf path)).orElse fun _ =>
        if path = "/dev/null" then some ByteArray.empty else none with
    | none =>
      if file.toList.contains '/' then fail name s!"cannot open {file}: No such file"
      else fail name s!"{file}: not found"
    | some content =>
      modify fun m => { m with status := 0 }
      let text := Octets.ofBytes content
      match ← Run.observed (within (some file) do inner.source {} (← Run.sourceOf text)) with
      | some (.returns status) => return status
      | some flow => throw flow
      | none => return (← get).status

/-- What a name means, in one line; nothing if it means nothing. -/
def meaning (known : List String) (m : Machine) (name : String) (brief : Bool) : Option String :=
  if Token.keywords.contains name then some (if brief then name else s!"{name} is a shell keyword")
  else if let some text := m.aliases.lookup name then
    some (if brief then s!"alias {name}=" ++ quoted text else s!"{name} is an alias for {text}")
  else if (m.functions.lookup name).isSome then
    some (if brief then name else s!"{name} is a shell function")
  else if known.contains name then
    some (if brief then name else
      if Script.specialNames.contains name then s!"{name} is a special shell builtin"
      else s!"{name} is a shell builtin")
  else match m.search m.searchPath name with
    | .ok (path, _) => some (if brief then path else s!"{name} is {path}")
    | .error _ => none

/-- Lets names of commands stand for texts, or tells what they stand for. -/
def alias_ : Builtin := fun _ _ words => do
  let shown (name text : String) : String := s!"{name}=" ++ quoted text ++ "\n"
  if words.isEmpty then
    (Machine.grouped (← get).aliases).forM fun (name, text) => Run.write (shown name text)
    return 0
  words.foldlM (fun status word => do
    let cs := word.toList
    let name := String.ofList (cs.take 1 ++ (cs.drop 1).takeWhile (· ≠ '='))
    let m ← get
    if name.length < cs.length then
      let text := String.ofList (cs.drop (name.length + 1))
      let isKnown := (m.aliases.lookup name).isSome
      set { m with aliases :=
        if isKnown then m.aliases.map fun (n, t) => (n, if n = name then text else t)
        else m.aliases ++ [(name, text)] }
      return status
    match m.aliases.lookup name with
    | some text =>
      Run.write (shown name text)
      return status
    | none =>
      Run.complain s!"alias: {name} not found"
      return 1) 0

/-- Forgets what names of commands stand for. -/
def unalias : Builtin := fun _ name words => do
  let (letters, words) ← options name "a" words
  if letters.contains 'a' then
    modify fun m => { m with aliases := [] }
    return 0
  words.foldlM (fun status word => do
    let m ← get
    if (m.aliases.lookup word).isSome then
      set { m with aliases := m.aliases.filter (·.1 ≠ word) }
      return status
    Run.complain s!"unalias: {word} not found"
    return 1) 0

/-- Bits for whom and for what, from the highest. -/
def rightLetters : List (Char × List (Char × Nat)) := [
  ('u', [('r', 256), ('w', 128), ('x', 64)]), ('g', [('r', 32), ('w', 16), ('x', 8)]),
  ('o', [('r', 4), ('w', 2), ('x', 1)])]

/-- The rights that a mask leaves, in letters. -/
def rightsLeft (mask : Nat) : String :=
  ",".intercalate (rightLetters.map fun (who, bits) =>
    String.ofList (who :: '=' :: (bits.filter fun b => mask / b.2 % 2 = 0).map (·.1)))

/-- A mask as clauses change it that say who gets, keeps or loses which rights. -/
def changedMask (text : String) (mask : Nat) : Option Nat :=
  let bitsOf (who : List Char) (what : List Char) : List Nat :=
    rightLetters.flatMap fun (c, bits) =>
      if who.contains c then (bits.filter fun b => what.contains b.1).map (·.2) else []
  (Text.splitAtEach ',' text.toList).foldlM (fun mask clause =>
    let named := clause.takeWhile "ugoa".toList.contains
    let who := if named.isEmpty || named.contains 'a' then ['u', 'g', 'o'] else named
    match clause.drop named.length with
    | sign :: what =>
      if !what.all "rwx".toList.contains then none
      else
        let isSet (b : Nat) : Bool := mask / b % 2 = 1
        let chosen := bitsOf who what
        let cleared (bs : List Nat) (mask : Nat) : Nat :=
          bs.foldl (fun mask b => if mask / b % 2 = 1 then mask - b else mask) mask
        match sign with
        | '+' => some (cleared chosen mask)
        | '-' => some (mask + ((chosen.filter (!isSet ·)).foldl (· + ·) 0))
        | '=' =>
          let all := bitsOf who ['r', 'w', 'x']
          some (cleared chosen (cleared all mask + all.foldl (· + ·) 0))
        | _ => none
    | [] => none) mask

/-- Tells or changes the rights that new files do not have. -/
def umask : Builtin := fun _ name words => do
  let (letters, words) ← options name "S" words
  match words with
  | [] =>
    let mask := (← get).mask
    let digits := String.ofList (Nat.toDigits 8 mask)
    Run.write ((if letters.contains 'S' then rightsLeft mask
      else String.ofList (List.replicate (4 - digits.length) '0') ++ digits) ++ "\n")
    return 0
  | word :: _ =>
    if word.toList.any Char.isDigit then
      match Numeral.whole? 8 word with
      | some mask =>
        modify fun m => { m with mask := mask.toNat % 512 }
        return 0
      | none => fail name s!"Illegal number: {word}"
    else
      match changedMask word (← get).mask with
      | some mask =>
        modify fun m => { m with mask := mask }
        return 0
      | none => fail name s!"Illegal mode: {word}"

def nothing : Builtin := fun _ _ _ => return 0

/-- The commands that need nobody else, by name. -/
def catalog : List (String × Builtin) := [
  (":", nothing), ("true", nothing), ("false", fun _ _ _ => return 1), ("echo", echo),
  ("printf", printf), ("test", test), ("[", test), ("cd", cd), ("chdir", cd), ("pwd", pwd),
  ("export", marking (·.exported) fun v => { v with exported := true }),
  ("readonly", marking (·.fixed) fun v => { v with fixed := true }), ("local", local_),
  ("unset", unset), ("shift", shift), ("set", set_), ("read", read), ("trap", trap), ("kill", kill),
  ("wait", plain wait), ("getopts", plain getopts), ("break", leave .breaks), ("continue", leave .continues),
  ("exit", endWith .exits), ("return", endWith .returns), ("eval", eval), (".", plain dot),
  ("umask", umask), ("alias", alias_), ("unalias", unalias), ("hash", nothing), ("jobs", nothing),
  ("ulimit", fun _ _ _ => do
    Run.write "unlimited\n"
    return 0),
  ("times", fun _ _ _ => do
    Run.write "0m0.000000s 0m0.000000s\n0m0.000000s 0m0.000000s\n"
    return 0),
  ("fg", fun _ name _ => fail name "No current job"),
  ("bg", fun _ name _ => fail name "No current job")]

/-- The names of all commands of the interpreter, those that start others too. -/
def names : List String := catalog.map (·.1) ++ ["command", "exec", "type"]

/-- Tells what names mean. -/
def type : Builtin := fun _ _ words => do
  words.foldlM (fun status word => do
    match meaning names (← get) word false with
    | some text =>
      Run.write (text ++ "\n")
      return status
    | none =>
      Run.write s!"{word}: not found\n"
      return 127) 0

end Builtin

end PullReview.Rehearsal
