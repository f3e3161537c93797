import PullReview.Program
import PullReview.Proofs.World.Scene

/-!
# Calls on record

A recorded shell changes no files and keeps record of its calls: of each the command, the files
that it found, and how it ended (`settles_recorded`).
-/

namespace PullReview

/-- A call of a program. -/
structure CallRecord where
  command : Command
  tree : Tree
  outcome : Except Fault CommandResult

/-- Calls end in any way, by what was called before, the command and the files. -/
def Shell.recorded (answer : List CallRecord → Command → Tree → Except Fault CommandResult) :
    Shell (List CallRecord) := fun command => do
  let tree ← Act.tree
  Act.onOutside fun calls =>
    let outcome := answer calls command tree
    (outcome, calls ++ [⟨command, tree, outcome⟩])

/-- Each call ended as it is answered behind those before it. -/
def CallRecord.AreAnswered (answer : List CallRecord → Command → Tree → Except Fault CommandResult)
    (earlier : List CallRecord) : List CallRecord → Prop
  | [] => True
  | call :: rest => call.outcome = answer earlier call.command call.tree ∧
      AreAnswered answer (earlier ++ [call]) rest

theorem CallRecord.areAnswered_append
    {answer : List CallRecord → Command → Tree → Except Fault CommandResult}
    {earlier calls more : List CallRecord} (h : AreAnswered answer earlier calls)
    (hmore : AreAnswered answer (earlier ++ calls) more) :
    AreAnswered answer earlier (calls ++ more) := by
  induction calls generalizing earlier with
  | nil => simpa using hmore
  | cons call rest ih => exact ⟨h.1, ih h.2 (by simpa using hmore)⟩

namespace Act

theorem settles_recorded (answer : List CallRecord → Command → Tree → Except Fault CommandResult)
    (command : Command) (w : World (List CallRecord)) :
    Settles (Shell.recorded answer command) w (answer w.outside command w.tree)
      { w with outside :=
          w.outside ++ [⟨command, w.tree, answer w.outside command w.tree⟩] } :=
  settles_tree.bind (settles_onOutside _)

end Act

end PullReview
