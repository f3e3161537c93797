import PullReview.Fault
import PullReview.Journal
import PullReview.Tree.Change
import PullReview.Tree.Real

/-!
# The world of a run

A run reads and changes a world: the file tree, the journal, and a part `σ`
that stands for everything outside, such as started programs and servers. An
action is a function on worlds that gives a value or a fault; what it did to
the world stays done when it fails.
-/

namespace PullReview

structure World (σ : Type) where
  outside : σ
  tree : Tree
  journal : Journal

/-- Actions of a run. -/
abbrev Act (σ : Type) := ExceptT Fault (StateM (World σ))

namespace Act

variable {σ : Type} {α : Type}

/-- Runs an action on a world. -/
def runOn (act : Act σ α) (w : World σ) : Except Fault α × World σ := act.run.run w

/-- The file tree as it is now. -/
def tree : Act σ Tree := do return (← get).tree

/-- Replaces the file tree. -/
def setTree (t : Tree) : Act σ Unit := modify fun w => { w with tree := t }

/-- Changes the file tree, or fails with a fault of its own. -/
def changeTree (change : Tree → Except FileFault Tree) : Act σ Unit := do
  match change (← tree) with
  | .ok t => setTree t
  | .error cause => throw (.file cause)

/-- The real place of a path. No name holds the byte that ends words for the
system. -/
def realPlace (p : Path) : Act σ (List String) := do
  if p.parts.any fun name => name.toList.contains '\x00' then throw (.data .endOfWord)
  match (← tree).realPlace p with
  | .ok place => return place
  | .error place => throw (.place (.circularLinks place))

/-- Whether a path names a file. -/
def probeFile (p : Path) : Act σ Bool := do
  liftM (((← tree).probeFile p).mapError Fault.file)

/-- What an action gives or fails with, as a value. -/
def attempt (act : Act σ α) : Act σ (Except Fault α) := fun w =>
  let (r, w) := act w
  (.ok r, w)

/-- A step of the outside on its own. -/
def onOutside (step : σ → Except Fault α × σ) : Act σ α := fun w =>
  let (r, s) := step w.outside
  (r, { w with outside := s })

end Act

/-- A part of the outside that can be read and replaced on its own. -/
structure Part (σ τ : Type) where
  get : σ → τ
  set : σ → τ → σ

namespace Part

/-- The whole of the outside. -/
def whole {σ : Type} : Part σ σ := ⟨id, fun _ t => t⟩

/-- A step of a part of the outside. -/
def step {σ τ α : Type} (p : Part σ τ) (f : τ → Except Fault α × τ) : Act σ α :=
  Act.onOutside fun s => let (r, t) := f (p.get s); (r, p.set s t)

end Part

/-- Writes entries in a given context. -/
structure Logger where
  context : Context := []

namespace Logger

variable {σ : Type}

/-- A logger whose entries carry more context; missing values are left out. -/
def bind (l : Logger) (more : Context) : Logger :=
  ⟨more.foldl (fun ctx (name, value) =>
    match value with
    | .null => ctx
    | _ => Json.setMember ctx name value) l.context⟩

def write (l : Logger) (level : Level) (message : String) : Act σ Unit :=
  modify fun w => { w with journal := w.journal.record ⟨level, message, l.context⟩ }

def debug (l : Logger) (message : String) : Act σ Unit := l.write .debug message
def info (l : Logger) (message : String) : Act σ Unit := l.write .info message
def warning (l : Logger) (message : String) : Act σ Unit := l.write .warning message
def error (l : Logger) (message : String) : Act σ Unit := l.write .error message

/-- Announces that something went well. -/
def success (l : Logger) (message : String) (more : Context) : Act σ Unit :=
  (l.bind more).info s!"=== SUCCESS: {message} ==="

/-- Announces that something failed, and on what fault. -/
def failure (l : Logger) (message : String) (fault : Option Fault) (more : Context) : Act σ Unit :=
  match fault with
  | some f => (l.bind more).error s!"=== FAILURE: {message} | Error: {f.message} ==="
  | none => (l.bind more).error s!"=== FAILURE: {message} ==="

/-- Runs an action and writes how long it took by the clock, in seconds. A
fault is written too, unless it is an order to stop, and passed on. -/
def timed {α : Type} (l : Logger) (clock : Act σ Double) (operation : String) (more : Context)
    (body : Logger → Act σ α) : Act σ α := do
  let start ← clock
  let log := l.bind more
  log.debug s!"Starting {operation}"
  match ← Act.attempt (body log) with
  | .ok a =>
    let duration := (← clock).sub start
    log.debug s!"Completed {operation} in {duration.fixed 3}s"
    return a
  | .error fault =>
    if fault.isOrdinary then
      let duration := (← clock).sub start
      log.error s!"Failed {operation} after {duration.fixed 3}s: {fault.message}"
    throw fault

end Logger

end PullReview
