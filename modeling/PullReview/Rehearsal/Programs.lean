import PullReview.Program

/-!
# Rehearsed programs

A rehearsal stands in for the programs a review starts: each rule names words
that a command has to hold and the answer it then gets. The first rule that
fits answers; some answer only once. Every command is noted, together with the
configuration file it was given.
-/

namespace PullReview.Rehearsal

/-- How a rehearsed program ends. -/
inductive Ending where
  | exits (result : CommandResult)
  | fails (fault : Fault)

structure Rule where
  words : List String
  once : Bool
  ending : Ending

/-- A command as it was started, with the text of the file after `--config`. -/
structure Call where
  command : Command
  config : Option (Option String)

/-- The rules still in force and the calls so far. -/
structure Programs where
  rules : List Rule := []
  calls : Array Call := #[]

namespace Programs

def fits (argv : List String) (r : Rule) : Bool := r.words.all argv.contains

/-- The first fitting rule, and the rules that stay in force after its use. -/
def pick (argv : List String) : List Rule → Option (Ending × List Rule)
  | [] => none
  | r :: rest =>
    if fits argv r then some (r.ending, if r.once then rest else r :: rest)
    else (pick argv rest).map fun (ending, rest) => (ending, r :: rest)

/-- The word after `--config`, if it is there. -/
def configWord : List String → Option String
  | "--config" :: word :: _ => some word
  | _ :: rest => configWord rest
  | [] => none

/-- What a command names as its configuration: the text of that file. -/
def configText (tree : Tree) (c : Command) : Option (Option String) :=
  (configWord c.argv).map fun word =>
    let base := c.directory.getD ⟨.here, []⟩
    (tree.content? (base.append (.ofString word))).bind String.fromUTF8?

/-- Answers a command by the rules; without a fitting rule the program is
missing. -/
def answer (p : Programs) (tree : Tree) (c : Command) : Except Fault CommandResult × Programs :=
  let p := { p with calls := p.calls.push ⟨c, configText tree c⟩ }
  match pick c.argv p.rules with
  | none => (.error (.programMissing (c.argv.headD "")), p)
  | some (.exits result, rules) => (.ok result, { p with rules := rules })
  | some (.fails fault, rules) => (.error fault, { p with rules := rules })

end Programs

/-- A shell that answers by rehearsed programs. -/
def shell {σ : Type} (part : Part σ Programs) : Shell σ := fun c => do
  let tree ← Act.tree
  part.step fun p => p.answer tree c

end PullReview.Rehearsal
