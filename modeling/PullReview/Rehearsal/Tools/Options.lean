import PullReview.Rehearsal.Script.Machine

/-!
# Options of tools

Options are letters behind a dash and may stand anywhere before `--`. A letter
may take a value, which is the rest of its word or the next one. Everything else
is an operand. A tool that is called wrongly says so and how to learn more.
-/

namespace PullReview.Rehearsal

/-- The letters a tool knows, and its long options as the letters they mean. -/
structure OptionSet where
  flags : String := ""
  valued : String := ""
  long : List (String × Char) := []
  /-- the status after a wrong call -/
  failure : Nat := 1
  /-- whether options end at the first operand -/
  ordered : Bool := false

/-- The options and operands of a call. -/
structure Call.Words where
  options : List (Char × String)
  operands : List String

namespace Call.Words

def has (w : Call.Words) (letter : Char) : Bool := (w.options.lookup letter).isSome

/-- The value of an option; the last one counts. -/
def value? (w : Call.Words) (letter : Char) : Option String := w.options.reverse.lookup letter

end Call.Words

namespace OptionSet

/-- The letters of one word; the words behind it may hold the value of the last. -/
def letters (o : OptionSet) : List Char → List String →
    Except String (List (Char × String) × List String)
  | [], rest => .ok ([], rest)
  | c :: cs, rest =>
    if o.valued.toList.contains c then
      if !cs.isEmpty then .ok ([(c, String.ofList cs)], rest)
      else match rest with
        | value :: rest => .ok ([(c, value)], rest)
        | [] => .error s!"option requires an argument -- '{c}'"
    else if o.flags.toList.contains c then do
      let (more, rest) ← o.letters cs rest
      return ((c, "") :: more, rest)
    else .error s!"invalid option -- '{c}'"

/-- Sorts the words of a call into options and operands. -/
def sortFrom (o : OptionSet) : Nat → List String → Except String Call.Words
  | 0, words => .ok ⟨[], words⟩
  | _, [] => .ok ⟨[], []⟩
  | fuel + 1, word :: rest =>
    match word.toList with
    | ['-', '-'] => .ok ⟨[], rest⟩
    | '-' :: '-' :: name =>
      let key := String.ofList (name.takeWhile (· ≠ '='))
      let given := name.drop (key.length + 1)
      match o.long.lookup key with
      | none => .error s!"unrecognized option '{word}'"
      | some letter =>
        if o.valued.toList.contains letter && key.length = name.length then
          match rest with
          | value :: rest => do
            let more ← o.sortFrom fuel rest
            return { more with options := (letter, value) :: more.options }
          | [] => .error s!"option '{word}' requires an argument"
        else do
          let more ← o.sortFrom fuel rest
          return { more with options := (letter, String.ofList given) :: more.options }
    | '-' :: c :: cs => do
      let (options, rest) ← o.letters (c :: cs) rest
      let more ← o.sortFrom fuel rest
      return { more with options := options ++ more.options }
    | _ =>
      if o.ordered then .ok ⟨[], word :: rest⟩
      else do
        let more ← o.sortFrom fuel rest
        return { more with operands := word :: more.operands }

def sort (o : OptionSet) (words : List String) : Except String Call.Words :=
  o.sortFrom (words.length + 1) words

end OptionSet

namespace Tool

/-- Says what is wrong with a call. -/
def misused (name complaint : String) (status : Nat) : Run Nat := do
  Run.complain s!"{name}: {complaint}"
  Run.complain s!"Try '{name} --help' for more information."
  return status

/-- A tool that goes by its options and operands. -/
def withOptions (o : OptionSet) (body : String → Call.Words → Run Nat) : Tool := fun name words =>
  match o.sort words with
  | .error complaint => misused name complaint o.failure
  | .ok words => body name words

/-- Does something for each of several operands; the worst status counts. -/
def forEach (operands : List String) (body : String → Run Nat) : Run Nat :=
  operands.foldlM (fun status operand => return max status (← body operand)) 0

/-- Complains and fails. -/
def refuse (name complaint : String) : Run Nat := do
  Run.complain s!"{name}: {complaint}"
  return 1

end Tool

end PullReview.Rehearsal
