import PullReview.Json.Basic
import PullReview.Text.Lines

/-!
# The journal

Everything the program tells about its run is an entry in the journal: a level,
a message and the context it was written in. Sinks take the entries from their
level on; the journal keeps what at least one sink took, in order.
-/

namespace PullReview

/-- Levels in ascending order. -/
inductive Level where
  | trace
  | debug
  | info
  | success
  | warning
  | error
  | critical
  deriving DecidableEq, Repr, Inhabited

namespace Level

def number : Level → Nat
  | .trace => 5
  | .debug => 10
  | .info => 20
  | .success => 25
  | .warning => 30
  | .error => 40
  | .critical => 50

def name : Level → String
  | .trace => "TRACE"
  | .debug => "DEBUG"
  | .info => "INFO"
  | .success => "SUCCESS"
  | .warning => "WARNING"
  | .error => "ERROR"
  | .critical => "CRITICAL"

def all : List Level := [.trace, .debug, .info, .success, .warning, .error, .critical]

/-- The level of that name, written in capitals. -/
def ofName? (s : String) : Option Level := all.find? (·.name = s)

end Level

/-- What an entry is about: named values, in the order of their naming. -/
abbrev Context := List (String × Json)

structure Entry where
  level : Level
  message : String
  context : Context

/-- An entry as one line of text. -/
def Entry.line (e : Entry) : String := e.level.name ++ " " ++ e.message

/-- The first line of an entry. -/
def Entry.headline (e : Entry) : String :=
  e.level.name ++ " " ++ String.ofList ((Text.separatedLines e.message.toList).headD [])

/-- Where entries go: to the console, or to a file in a directory. -/
structure Sink where
  threshold : Level
  directory : Option (List String) := none

def Sink.takes (s : Sink) (e : Entry) : Bool := s.threshold.number ≤ e.level.number

/-- A file of the journal, by its directory, with the first lines of its entries. -/
structure JournalFile where
  directory : List String
  lines : Array String

structure Journal where
  sinks : List Sink := []
  entries : Array Entry := #[]
  files : List JournalFile := []
  /-- whether sinks have been chosen, be it in vain -/
  isSetUp : Bool := false

namespace Journal

/-- A journal with one console sink. -/
def console (threshold : Level) : Journal := { sinks := [⟨threshold, none⟩], isSetUp := true }

/-- Adds a line to the file of a directory, making the file if needed. -/
def addLine (files : List JournalFile) (directory : List String) (line : Option String) :
    List JournalFile :=
  let new := line.toList.toArray
  if files.any (·.directory = directory) then
    files.map fun f => if f.directory = directory then { f with lines := f.lines ++ new } else f
  else files ++ [⟨directory, new⟩]

/-- Hands an entry to every sink that takes it. -/
def record (j : Journal) (e : Entry) : Journal :=
  let taking := j.sinks.filter (·.takes e)
  if taking.isEmpty then j
  else
    { j with
      entries := j.entries.push e
      files := (taking.filterMap (·.directory)).foldl (fun fs d =>
        addLine fs d e.headline) j.files }

end Journal

end PullReview
