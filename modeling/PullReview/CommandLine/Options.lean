import PullReview.Number.Numeral
import PullReview.Text.Lines
import PullReview.Text.Quoted

/-!
# Options of the command line

Each argument is first sorted by its form alone: an option, written in full or
shortened to a beginning that no other option shares, or a plain word. Then the
options are taken from left to right, each with the value written behind `=` or
with the plain word that follows. Words that no option takes are told together
at the end.
-/

namespace PullReview.CommandLine

/-- What the command line sets. -/
structure Options where
  base : Option String := none
  head : Option String := none
  number : Option String := none
  repository : Option String := none
  workspace : Option String := none
  dryRun : Bool := false
  logLevel : Option String := none

/-- The options there are. -/
inductive Flag where
  | help
  | base
  | head
  | number
  | repository
  | workspace
  | dryRun
  | logLevel
  deriving DecidableEq, Repr

/-- Why a command line is refused. -/
inductive UsageFault where
  | ambiguous (argument : String) (candidates : List String)
  | valueMissing (flag : Flag)
  | valueIgnored (flag : Flag) (value : String)
  | unrecognized (arguments : List String)

/-- What a command line asks for. -/
inductive Request where
  | review (options : Options)
  | help

namespace Flag

/-- The long name. -/
def name : Flag → String
  | .help => "--help"
  | .base => "--base"
  | .head => "--head"
  | .number => "--pr-number"
  | .repository => "--repository"
  | .workspace => "--workspace"
  | .dryRun => "--dry-run"
  | .logLevel => "--log-level"

def all : List Flag := [
  .help, .base, .head, .number, .repository, .workspace, .dryRun, .logLevel]

/-- How faults speak of an option: by all its names. -/
def label : Flag → String
  | .help => "-h/--help"
  | f => f.name

def takesValue : Flag → Bool
  | .help | .dryRun => false
  | _ => true

/-- The option of that long name. -/
def ofName? (s : String) : Option Flag := all.find? (·.name = s)

/-- The options whose long name begins so. -/
def beginningWith (start : List Char) : List Flag :=
  all.filter fun f => start.isPrefixOf f.name.toList

end Flag

/-- An argument sorted by its form. -/
inductive Word where
  /-- can be the value of an option -/
  | plain (text : String)
  | option (flag : Flag) (value : Option String)
  /-- the short help option with more characters behind it, behind `=` or not -/
  | shortHelp (attached : List Char)
  /-- two hyphens: plain words from here on -/
  | terminator
  | unknown (text : String)

/-- Negative numbers in digits of any script, with or without a fraction; one
line feed at the end does not matter. -/
def isNegativeNumber (cs : List Char) : Bool :=
  let cs := if cs.getLast? = some '\n' then cs.dropLast else cs
  match cs with
  | '-' :: digits =>
    let rest := digits.dropWhile Text.isDecimalDigit
    match rest with
    | [] => !digits.isEmpty
    | '.' :: fraction => !fraction.isEmpty && fraction.all Text.isDecimalDigit
    | _ => false
  | _ => false

namespace Word

/-- A text that begins with a hyphen and names no option. -/
def nameless (text : String) : Word :=
  if isNegativeNumber text.toList || text.toList.contains ' ' then .plain text else .unknown text

/-- Sorts a text that begins with two hyphens. -/
def ofLong (text : String) : Except UsageFault Word :=
  let cs := text.toList
  let name := cs.takeWhile (· ≠ '=')
  let value := match cs.dropWhile (· ≠ '=') with
    | [] => none
    | _ :: value => some (String.ofList value)
  match Flag.ofName? (String.ofList name) with
  | some f => .ok (.option f value)
  | none =>
    match Flag.beginningWith name with
    | [] => .ok (nameless text)
    | [f] => .ok (.option f value)
    | several => .error (.ambiguous text (several.map (·.name)))

/-- Sorts an argument that stands before any terminator. -/
def ofText (text : String) : Except UsageFault Word :=
  match text.toList with
  | ['-', '-'] => .ok .terminator
  | '-' :: '-' :: _ => ofLong text
  | ['-', 'h'] => .ok (.option .help none)
  | ['-', 'h', '='] => .ok (.option .help (some ""))
  | '-' :: 'h' :: '=' :: attached => .ok (.shortHelp attached)
  | '-' :: 'h' :: attached => .ok (.shortHelp attached)
  | ['-'] => .ok (.plain text)
  | '-' :: _ => .ok (nameless text)
  | _ => .ok (.plain text)

/-- Sorts the arguments; behind a terminator they are all plain. -/
def sort : List String → Except UsageFault (List Word)
  | [] => .ok []
  | text :: rest => do
    match ← ofText text with
    | .terminator => return .terminator :: rest.map .plain
    | word => return word :: (← sort rest)

end Word

namespace Options

/-- Sets the value of an option; the last one given stays. -/
def set (o : Options) (flag : Flag) (value : String) : Options :=
  match flag with
  | .base => { o with base := some value }
  | .head => { o with head := some value }
  | .number => { o with number := some value }
  | .repository => { o with repository := some value }
  | .workspace => { o with workspace := some value }
  | .logLevel => { o with logLevel := some value }
  | .help | .dryRun => o

/-- What stands behind the short help option can only be more of the same
option. -/
def attachedToHelp : List Char → Except UsageFault Request
  | [] => .ok .help
  | 'h' :: rest => attachedToHelp rest
  | value => .error (.valueIgnored .help (String.ofList value))

/-- Takes the options from left to right; `left` holds the words that nothing
took, latest first. -/
def take (o : Options) (left : List String) : List Word → Except UsageFault Request
  | [] => if left.isEmpty then .ok (.review o) else .error (.unrecognized left.reverse)
  | .plain text :: rest => take o (text :: left) rest
  | .unknown text :: rest => take o (text :: left) rest
  | .terminator :: rest => take o ("--" :: left) rest
  | .shortHelp attached :: _ => attachedToHelp attached
  | .option flag (some value) :: rest =>
    if flag.takesValue then take (o.set flag value) left rest
    else .error (.valueIgnored flag value)
  | .option flag none :: rest =>
    if flag.takesValue then
      match rest with
      | .plain value :: after => take (o.set flag value) left after
      | _ => .error (.valueMissing flag)
    else if flag = .help then .ok .help
    else take { o with dryRun := true } left rest

end Options

/-- Reads the arguments of the command line. -/
def request (arguments : List String) : Except UsageFault Request := do
  Options.take {} [] (← Word.sort arguments)

/-- The wording of a fault. -/
def UsageFault.message : UsageFault → String
  | .ambiguous argument candidates =>
    let shown := Text.join ", " candidates
    s!"ambiguous option: {argument} could match {shown}"
  | .valueMissing flag => s!"argument {flag.label}: expected one argument"
  | .valueIgnored flag value =>
    s!"argument {flag.label}: ignored explicit argument {Text.quoted value}"
  | .unrecognized arguments => "unrecognized arguments: " ++ Text.join " " arguments

/-- The name that the program goes by on its command line. -/
def programName : String := "pr-quality"

/-- What is told of a refused command line, below the usage. -/
def UsageFault.line (f : UsageFault) : String := s!"{programName}: error: {f.message}"

/-- How the program is called. -/
def usage : List String := [
  "usage: pr-quality [-h] [--base BASE] [--head HEAD] [--pr-number PR_NUMBER]",
  "                  [--repository REPOSITORY] [--workspace WORKSPACE]",
  "                  [--dry-run] [--log-level LOG_LEVEL]"]

/-- What each option does. -/
def optionHelp : List String := [
  "options:",
  "  -h, --help            show this help message and exit",
  "  --base BASE           Base revision (defaults to the PR base SHA)",
  "  --head HEAD           Head revision (defaults to the PR head SHA)",
  "  --pr-number PR_NUMBER",
  "                        Pull request number",
  "  --repository REPOSITORY",
  "                        Repository as owner/name",
  "  --workspace WORKSPACE",
  "                        Repository checkout to analyze",
  "  --dry-run             Analyze and report in the log only; do not post PR",
  "                        comments",
  "  --log-level LOG_LEVEL",
  "                        Log level (default: INFO)"]

/-- The whole help. -/
def help : String :=
  let purpose := [
    "Type-check and lint the lines changed by a pull request and report them as PR",
    "comments."]
  String.join ((usage ++ [""] ++ purpose ++ [""] ++ optionHelp).map (· ++ "\n"))

/-- The status of a refused command line. -/
def refusedStatus : Nat := 2

end PullReview.CommandLine
