import PullReview.Number.Numeral
import PullReview.Text.Lines

/-!
# What the type checker prints

The checker prints one line per problem, with place, category and code, and
puts further lines of a message below it, indented. Reading its output folds
those into the message of the problem above; lines of any other form are
passed over.
-/

namespace PullReview

open Text

inductive MessageCategory where
  | error
  | warning
  | message
  deriving DecidableEq, Repr, Inhabited

def MessageCategory.name : MessageCategory → String
  | .error => "error"
  | .warning => "warning"
  | .message => "message"

/-- A problem that the type checker reports at a place. -/
structure CompilerMessage where
  file : String
  line : Nat
  column : Nat
  category : MessageCategory
  code : Nat
  message : String
  deriving DecidableEq, Repr, Inhabited

namespace CompilerMessage

/-- The category in front of a text, and what follows. -/
def category? (cs : List Char) : Option (MessageCategory × List Char) :=
  [MessageCategory.error, .warning, .message].findSome? fun c =>
    (c.name.toList.isPrefixOf? cs).map fun rest => (c, rest)

/-- A located message with its numbers still in digits. -/
structure Located where
  file : List Char
  line : List Nat
  column : List Nat
  category : MessageCategory
  code : List Nat
  message : List Char

/-- Reads `(line,column): category TScode: message`, with no file yet. -/
def place? (cs : List Char) : Option Located := do
  let rest ← "(".toList.isPrefixOf? cs
  let (line, rest) ← Numeral.digitsInFront? rest
  let rest ← ",".toList.isPrefixOf? rest
  let (column, rest) ← Numeral.digitsInFront? rest
  let rest ← "):".toList.isPrefixOf? rest
  let (category, rest) ← category? (trimStart rest)
  let word ← if rest.head?.any isBlank then some (trimStart rest) else none
  let rest ← "TS".toList.isPrefixOf? word
  let (code, rest) ← Numeral.digitsInFront? rest
  let rest ← ":".toList.isPrefixOf? (trimStart rest)
  return ⟨[], line, column, category, code, trimStart rest⟩

/-- The first place at which a file name can end; the name so far is `before`,
in reverse. -/
def search? (before : List Char) : List Char → Option Located
  | [] => none
  | c :: cs =>
    match place? (c :: cs) with
    | some found => some { found with file := before.reverse }
    | none => search? (c :: before) cs

/-- The located message of a line. A file name starts with a character that is
not blank and is as short as the rest of the line allows. -/
def located? : List Char → Option Located
  | [] => none
  | c :: cs => if isBlank c then none else search? [c] cs

/-- The message with its numbers read. -/
def Located.read (l : Located) : Except NumeralFault CompilerMessage := do
  let line ← Numeral.natOf l.line
  let column ← Numeral.natOf l.column
  let code ← Numeral.natOf l.code
  return {
    file := String.ofList (trim l.file)
    line := line
    column := column
    category := l.category
    code := code
    message := String.ofList (trim l.message) }

/-- Whether a line goes on with the message above it: it is indented by a space
and not blank. -/
def isContinuation (line : List Char) : Bool :=
  line.head? = some ' ' && !allBlank line

/-- The message with one more line. -/
def extend (m : CompilerMessage) (line : List Char) : CompilerMessage :=
  { m with message := m.message ++ "\n" ++ String.ofList (trim line) }

/-- Reads one line; the messages so far are in reverse. -/
def step (done : List CompilerMessage) (line : List Char) :
    Except NumeralFault (List CompilerMessage) :=
  match located? line with
  | some l => do return (← l.read) :: done
  | none =>
    match done with
    | [] => .ok []
    | last :: rest => if isContinuation line then .ok (last.extend line :: rest) else .ok done

/-- The located messages of the checker's output. It fails only on a number
with too many digits. -/
def ofOutput (output : String) : Except NumeralFault (List CompilerMessage) := do
  let done ← (unixLines output.toList).foldlM step []
  return done.reverse

/-!
## Noise of the environment

Where the dependencies of a project are not installed, the type checker reports
problems that the change has not caused: packages it cannot find, and elements
without types because the types are in a missing package.
-/

/-- Whether the text behind an opening quote names a package: it is closed by a
quote, not empty, and does not lead to a place relative to the file. -/
def namesPackage (cs : List Char) : Bool :=
  !"./".toList.isPrefixOf cs && !"../".toList.isPrefixOf cs &&
    (match cs with
      | [] => false
      | c :: _ => c ≠ '\'' && cs.contains '\'')

/-- Whether a message says somewhere that a package cannot be found. -/
def missesPackage : List Char → Bool
  | [] => false
  | c :: cs =>
    (match "Cannot find module '".toList.isPrefixOf? (c :: cs) with
      | some rest => namesPackage rest
      | none => false) || missesPackage cs

/-- Problems of the environment: a missing package, or elements whose types come
with one. -/
def isNoise (code : Nat) (message : String) : Bool :=
  if code = 2307 then missesPackage message.toList else code = 7026

end CompilerMessage

end PullReview
