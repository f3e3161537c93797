import PullReview.Rehearsal.Script.Format
import PullReview.Rehearsal.Script.Question
import PullReview.Rehearsal.Tools.Options

/-!
# Tools that write, ask and wait

Tools that need no files: they write their arguments, look at the environment,
answer a question or let time go by.
-/

namespace PullReview.Rehearsal.Tool

/-- Writes its arguments with blanks between them; options turn the line end off
and escapes on or off. -/
def echo : Tool := fun _ words => do
  let isOption (word : String) : Bool := match word.toList with
    | '-' :: letters => !letters.isEmpty && letters.all "neE".toList.contains
    | _ => false
  let options := words.takeWhile isOption
  let letters := options.flatMap (·.toList)
  let escapes := (letters.reverse.find? fun c => c = 'e' || c = 'E') == some 'e'
  let text := " ".intercalate (words.drop options.length)
  let (text, stop) :=
    if escapes then Format.unescaped .echoTool (text.length + 1) text.toList else (text, none)
  Run.write (if stop.isNone && !letters.contains 'n' then text ++ "\n" else text)
  return 0

/-- Carries out what formatting came to. -/
def carryOut (name : String) (events : List Format.Event) : Run Nat :=
  events.foldlM (fun status event => do
    match event with
    | .text text =>
      Run.write text
      return status
    | .warning text isFailure =>
      Run.complain s!"{name}: {text}"
      return if isFailure then 1 else status) 0

/-- Writes its arguments by a format. -/
def printf : Tool := fun name words => do
  let words := match words with
    | "--" :: rest => rest
    | words => words
  match words with
  | [] => misused name "missing operand" 1
  | format :: arguments =>
    let (events, mistake) := Format.output .tool format arguments
    let status ← carryOut name events
    match mistake with
    | some text => refuse name text
    | none => return status

/-- Nanoseconds of a number of seconds, minutes, hours or days; nothing if a text
says none, and nothing inside if it says that there is no end. -/
def duration? (text : String) : Option (Option Nat) :=
  let cs := text.toList
  let cs := match cs with
    | '+' :: rest => rest
    | cs => cs
  match Format.quantity cs with
  | some (.fraction num den, rest) =>
    let unit? := match rest with
      | [] | ['s'] => some 1
      | ['m'] => some 60
      | ['h'] => some 3600
      | ['d'] => some 86400
      | _ => none
    unit?.map fun unit => some (unit * 1000000000 * num / den)
  | some (.infinite, []) => some none
  | _ => none

/-- Lets time go by. -/
def sleep : Tool := withOptions {} fun name words => do
  if words.operands.isEmpty then return ← misused name "missing operand" 1
  let durations := words.operands.map duration?
  if durations.contains none then
    for operand in words.operands do
      if (duration? operand).isNone then
        Run.complain s!"{name}: invalid time interval {Octets.quoted operand}"
    Run.complain s!"Try '{name} --help' for more information."
    return 1
  if durations.contains (some none) then throw .endless
  Run.wait (durations.foldl (fun total d => total + (d.getD none).getD 0) 0)
  return 0

/-- Writes values of the environment, or all of it. -/
def printenv : Tool := withOptions { flags := "0", failure := 2, ordered := true }
    fun _ words => do
  let environment := (← get).environment
  let stop := if words.has '0' then "\x00" else "\n"
  if words.operands.isEmpty then
    environment.forM fun (name, value) => Run.write (s!"{name}={value}" ++ stop)
    return 0
  forEach words.operands fun name => do
    match (environment.value? name).filter fun _ => name ≠ "" with
    | some value =>
      Run.write (value ++ stop)
      return 0
    | none => return 1

/-- Ends by whether a question holds. -/
def test (bracketed : Bool) : Tool := fun name words => do
  let fail (text : String) : Run Nat := do
    Run.complain s!"{name}: {text}"
    return 2
  if bracketed && words.getLast? ≠ some "]" then fail "missing ']'"
  else
    match Question.toolAnswer (← get) (if bracketed then words.dropLast else words) with
    | .ok answer => return if answer then 0 else 1
    | .error mistake => fail mistake.toolMessage

/-- The names that the system gives to itself; none of them is told but the first. -/
def uname : Tool := withOptions { flags := "asnrvmpio" } fun _ _ => do
  Run.write "Linux\n"
  return 0

end PullReview.Rehearsal.Tool
