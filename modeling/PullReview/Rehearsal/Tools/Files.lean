import PullReview.Rehearsal.Script.Format
import PullReview.Rehearsal.Tools.Options
import PullReview.Tree.Real

/-!
# Tools for files and directories

Tools that list, make, copy, move and remove files, and those that take paths
apart.
-/

namespace PullReview.Rehearsal.Tool

/-- What a path names, the last link followed or not. -/
def spot (name : String) (toTheEnd : Bool) : Run (Except FileFault Spot) := do
  let path := pathOf name
  match (← get).tree.walk path toTheEnd with
  | .error obstacle => return .error (obstacle.fault path)
  | .ok spot =>
    let isFile := match spot.node with
      | some (.file _) => true
      | _ => false
    if name = "" then return .error (.notFound path)
    else if name.endsWith "/" && isFile then return .error (.notDirectory path)
    else return .ok spot

/-- What is there under a name; that nothing is there is a fault. -/
def present (name : String) (toTheEnd : Bool) : Run (Except FileFault (List String × Node)) := do
  match ← spot name toTheEnd with
  | .error fault => return .error fault
  | .ok ⟨place, some node⟩ => return .ok (place, node)
  | .ok ⟨_, none⟩ => return .error (.notFound (pathOf name))

/-- Puts something at a place. -/
def put (location : List String) (node : Node) : Run Unit :=
  modify fun m => { m with tree := { m.tree with root := m.tree.root.set location node } }

/-- Takes away what is at a place. -/
def clear (location : List String) : Run Unit :=
  modify fun m => { m with tree := { m.tree with root := m.tree.root.erase location } }

/-- The names in a directory, as bytes and in their order. -/
def namesOf (entries : List (String × Node)) : List String :=
  (entries.map fun e => Octets.ofText e.1).mergeSort fun a b => decide (a ≤ b)

/-- Lists the names in directories in ascending order, hidden ones left out, and
files by their own names. -/
def ls : Tool := withOptions { flags := "1aAdrFp", failure := 2 } fun name words => do
  let ordered (names : List String) : List String := if words.has 'r' then names.reverse else names
  let operands := if words.operands.isEmpty then ["."] else words.operands
  let found ← operands.mapM fun operand => do
    match ← present operand true with
    | .ok (_, node) => return some (operand, node)
    | .error fault =>
      Run.complain s!"{name}: cannot access {Octets.quoted operand}: {fault.reason}"
      return none
  let there := ((found.filterMap id).mergeSort fun a b => decide (a.1 ≤ b.1))
  let there := if words.has 'r' then there.reverse else there
  let isDir (n : Node) : Bool := match n with
    | .dir _ => !words.has 'd'
    | _ => false
  let mark (n : Node) : String := match n with
    | .dir _ => if words.has 'F' || words.has 'p' then "/" else ""
    | .link _ => if words.has 'F' then "@" else ""
    | .file _ => ""
  let files := there.filter fun x => !isDir x.2
  let directories := there.filter fun x => isDir x.2
  for (file, node) in files do
    Run.write (file ++ mark node ++ "\n")
  let mut isFirst := files.isEmpty
  for (directory, node) in directories do
    if 1 < operands.length then
      Run.write ((if isFirst then "" else "\n") ++ directory ++ ":\n")
    isFirst := false
    match node with
    | .dir entries =>
      let seen (n : String) : Bool := words.has 'a' || words.has 'A' || !n.startsWith "."
      let special := if words.has 'a' then [".", ".."] else []
      for n in ordered (special ++ (namesOf entries).filter seen) do
        let entry := (entries.find? fun e => Octets.ofText e.1 = n).map (·.2)
        Run.write (n ++ mark (entry.getD (.dir [])) ++ "\n")
    | _ => pure ()
  return if found.any (·.isNone) then 2 else 0

/-- The last part of a path, and what stands before it. -/
def partsOf (name : String) : List Char × List Char :=
  let cs := (name.toList.reverse.dropWhile (· = '/'))
  let last := (cs.takeWhile (· ≠ '/')).reverse
  let before := (cs.drop last.length).dropWhile (· = '/')
  (before.reverse, last)

/-- The last part of a path, `/` for the root. -/
def lastPart (name : String) : String :=
  let (_, last) := partsOf name
  if last.isEmpty && name ≠ "" then "/" else String.ofList last

/-- Writes the last part of a path, without an ending if it has that one. -/
def basename : Tool := withOptions { flags := "a", valued := "s", ordered := true }
    fun name words => do
  let several := words.has 'a' || words.has 's'
  let written (operand ending : String) : Run Unit := do
    let last := lastPart operand
    let kept := if ending ≠ "" && last ≠ ending && last.endsWith ending then
        String.ofList (last.toList.take (last.length - ending.length)) else last
    Run.write (kept ++ "\n")
  match words.operands with
  | [] => misused name "missing operand" 1
  | operands =>
    if several then
      operands.forM fun operand => written operand ((words.value? 's').getD "")
      return 0
    else match operands with
      | [operand] =>
        written operand ""
        return 0
      | [operand, ending] =>
        written operand ending
        return 0
      | operands => misused name ("extra operand " ++ Octets.quoted (operands.getD 2 "")) 1

/-- Writes paths without their last part. -/
def dirname : Tool := withOptions {} fun name words => do
  if words.operands.isEmpty then return ← misused name "missing operand" 1
  for operand in words.operands do
    let (before, last) := partsOf operand
    let isRooted := operand.startsWith "/"
    let text := if before.isEmpty then (if isRooted then "/" else ".") else String.ofList before
    Run.write ((if last.isEmpty && isRooted then "/" else text) ++ "\n")
  return 0

def pwd : Tool := withOptions { flags := "LP" } fun name words => do
  if !words.operands.isEmpty then Run.complain s!"{name}: ignoring non-option arguments"
  Run.write (Octets.ofText (Path.absolute (← get).tree.here).text ++ "\n")
  return 0

/-- Makes directories, those above them too if so asked. -/
def mkdir : Tool := withOptions { flags := "pv", valued := "m", long := [("parents", 'p')] }
    fun name words => do
  if words.operands.isEmpty then return ← misused name "missing operand" 1
  forEach words.operands fun operand => do
    let m ← get
    let path := pathOf operand
    let made := if operand = "" then .error (.notFound path)
      else if words.has 'p' then m.tree.makeDirs path else m.tree.makeDir path
    match made with
    | .ok tree =>
      set { m with tree := tree }
      return 0
    | .error fault =>
      refuse name s!"cannot create directory {Octets.quoted operand}: {fault.reason}"

/-- Removes directories that are empty. -/
def rmdir : Tool := withOptions { flags := "pv" } fun name words => do
  if words.operands.isEmpty then return ← misused name "missing operand" 1
  forEach words.operands fun operand => do
    let refusal (reason : String) : Run Nat :=
      refuse name s!"failed to remove {Octets.quoted operand}: {reason}"
    match ← present operand false with
    | .error fault => refusal fault.reason
    | .ok (location, .dir []) =>
      clear location
      return 0
    | .ok (_, .dir _) => refusal "Directory not empty"
    | .ok _ => refusal "Not a directory"

/-- Removes files, and directories with all they hold if so asked. -/
def rm : Tool := withOptions { flags := "rRfvid", long := [("recursive", 'r'), ("force", 'f')] }
    fun name words => do
  let deep := words.has 'r' || words.has 'R'
  if words.operands.isEmpty && !words.has 'f' then return ← misused name "missing operand" 1
  forEach words.operands fun operand => do
    let refusal (reason : String) : Run Nat :=
      refuse name s!"cannot remove {Octets.quoted operand}: {reason}"
    if deep && [".", ".."].contains (lastPart operand) then
      refuse name s!"refusing to remove '.' or '..' directory: skipping {Octets.quoted operand}"
    else
      match ← present operand false with
      | .error fault =>
        match fault with
        | .notFound _ | .notDirectory _ =>
          if words.has 'f' then return 0 else refusal fault.reason
        | fault => refusal fault.reason
      | .ok (location, .dir entries) =>
        if deep || (words.has 'd' && entries.isEmpty) then
          clear location
          return 0
        else refusal "Is a directory"
      | .ok (location, _) =>
        clear location
        return 0

/-- Makes files that are not there yet. -/
def touch : Tool := withOptions { flags := "cam", valued := "dtr" } fun name words => do
  if words.operands.isEmpty then return ← misused name "missing file operand" 1
  forEach words.operands fun operand => do
    match ← spot operand true with
    | .ok ⟨location, none⟩ =>
      if operand.endsWith "/" then
        refuse name s!"cannot touch {Octets.quoted operand}: No such file or directory"
      else
        if !words.has 'c' then put location (.file ByteArray.empty)
        return 0
    | .ok _ => return 0
    | .error fault => refuse name s!"cannot touch {Octets.quoted operand}: {fault.reason}"

/-- The place that something goes to under the name of a target, which may be a
directory that holds it. -/
def destination (origin target : String) : Run (Except FileFault Spot) := do
  let name := if target.endsWith "/" then target else target ++ "/"
  match ← present target true with
  | .ok (_, .dir _) => spot (name ++ lastPart origin) false
  | _ => spot target false

/-- Copies or moves things, by what is done with each of them. -/
def transfer (name : String) (operands : List String)
    (each : String → String → List String → Node → Run Nat) (toTheEnd : Bool) : Run Nat := do
  match operands.reverse with
  | [] => misused name "missing file operand" 1
  | [only] => misused name s!"missing destination file operand after {Octets.quoted only}" 1
  | target :: origins =>
    if 1 < origins.length then
      match ← present target true with
      | .ok (_, .dir _) => pure ()
      | _ => return ← refuse name s!"target {Octets.quoted target}: No such file or directory"
    forEach origins.reverse fun origin => do
      match ← present origin toTheEnd with
      | .error fault => refuse name s!"cannot stat {Octets.quoted origin}: {fault.reason}"
      | .ok (location, node) => each origin target location node

/-- The name under which complaints speak of a target. -/
def targetName (origin target : String) : Run String := do
  match ← present target true with
  | .ok (_, .dir _) =>
    return (if target.endsWith "/" then target else target ++ "/") ++ lastPart origin
  | _ => return target

/-- Copies files, and directories if so asked. -/
def cp : Tool := withOptions { flags := "rRafpv", long := [("recursive", 'r')] }
    fun name words => do
  let deep := words.has 'r' || words.has 'R' || words.has 'a'
  transfer name words.operands (fun origin target location node => do
    let shown ← targetName origin target
    match node, deep with
    | .dir _, false =>
      refuse name s!"-r not specified; omitting directory {Octets.quoted origin}"
    | node, _ =>
      match ← destination origin target with
      | .error fault =>
        refuse name s!"cannot create regular file {Octets.quoted shown}: {fault.reason}"
      | .ok ⟨goal, old⟩ =>
        if goal = location then
          refuse name s!"{Octets.quoted origin} and {Octets.quoted shown} are the same file"
        else match old, node with
          | some (.dir _), .file _ =>
            refuse name
              s!"cannot overwrite directory {Octets.quoted shown} with non-directory {Octets.quoted origin}"
          | _, node =>
            put goal node
            return 0) (!deep)

/-- Moves things. -/
def mv : Tool := withOptions { flags := "fnv" } fun name words =>
  transfer name words.operands (fun origin target location node => do
    let shown ← targetName origin target
    match ← destination origin target with
    | .error fault =>
      refuse name s!"cannot move {Octets.quoted origin} to {Octets.quoted shown}: {fault.reason}"
    | .ok ⟨goal, _⟩ =>
      if goal = location then
        refuse name s!"{Octets.quoted origin} and {Octets.quoted shown} are the same file"
      else
        clear location
        put goal node
        modify fun m => { m with
          runnable := m.runnable.map fun p => if p = location then goal else p }
        return 0) false

/-- Makes links to texts, or copies where links share a file. -/
def ln : Tool := withOptions { flags := "sfnv" } fun name words => do
  let link (target goalName : String) : Run Nat := do
    let shown ← targetName target goalName
    let what := if words.has 's' then "symbolic link" else "hard link"
    match ← destination target goalName with
    | .error fault => refuse name s!"failed to create {what} {Octets.quoted shown}: {fault.reason}"
    | .ok ⟨goal, old⟩ =>
      if old.isSome && !words.has 'f' then
        refuse name s!"failed to create {what} {Octets.quoted shown}: File exists"
      else if words.has 's' then
        put goal (.link (Octets.toText target))
        return 0
      else
        match ← present target false with
        | .error fault => refuse name s!"failed to access {Octets.quoted target}: {fault.reason}"
        | .ok (_, .dir _) => refuse name s!"{Octets.shown target}: hard link not allowed for directory"
        | .ok (_, node) =>
          put goal node
          return 0
  match words.operands with
  | [] => misused name "missing file operand" 1
  | [target] => link target "."
  | operands =>
    forEach operands.dropLast fun target => link target (operands.getLastD "")

/-- Whether a mode makes files runnable; nothing if it says nothing about that, and a
fault if it is no mode. -/
def makesRunnable (mode : String) : Except Unit (Option Bool) :=
  let cs := mode.toList
  if !cs.isEmpty && cs.all Format.isOctal && cs.length ≤ 4 then
    .ok (some (cs.any fun c => (c.toNat - 48) % 2 = 1))
  else
    (Text.splitAtEach ',' cs).foldlM (fun known clause =>
      let sign := clause.dropWhile "ugoa".toList.contains
      match sign with
      | c :: rights =>
        if !"+-=".toList.contains c || !rights.all "rwxXst".toList.contains then .error ()
        else if rights.contains 'x' then .ok (some (c ≠ '-'))
        else if c = '=' then .ok (some false)
        else .ok known
      | [] => .error ()) none

/-- Changes who may do what with files, of which only running counts. -/
def chmod : Tool := fun name words => do
  let words := words.filter (· ≠ "--")
  match words with
  | [] => misused name "missing operand" 1
  | [mode] => misused name s!"missing operand after {Octets.quoted mode}" 1
  | mode :: operands =>
    match makesRunnable mode with
    | .error () => misused name s!"invalid mode: {Octets.quoted mode}" 1
    | .ok change =>
      forEach operands fun operand => do
        match ← present operand true with
        | .error fault => refuse name s!"cannot access {Octets.quoted operand}: {fault.reason}"
        | .ok (location, _) =>
          modify fun m => { m with
            runnable := match change with
              | some true => location :: m.runnable
              | some false => m.runnable.filter (· ≠ location)
              | none => m.runnable }
          return 0

/-- Writes where links lead to. -/
def readlink : Tool := withOptions { flags := "fenm" } fun name words => do
  if words.operands.isEmpty then return ← misused name "missing operand" 1
  let stop := if words.has 'n' then "" else "\n"
  forEach words.operands fun operand => do
    let m ← get
    if words.has 'f' || words.has 'e' || words.has 'm' then
      match m.tree.realPlace (pathOf operand) with
      | .ok location =>
        Run.write (Octets.ofText (Path.absolute location).text ++ stop)
        return 0
      | .error _ => return 1
    else
      match ← spot operand false with
      | .ok ⟨_, some (.link target)⟩ =>
        Run.write (Octets.ofText target ++ stop)
        return 0
      | _ => return 1

/-- Writes paths with all links followed; only the last part may be missing. -/
def realpath : Tool := withOptions { flags := "em" } fun name words => do
  if words.operands.isEmpty then return ← misused name "missing operand" 1
  forEach words.operands fun operand => do
    match ← spot operand true with
    | .ok found =>
      if found.node.isNone && words.has 'e' then
        refuse name s!"{Octets.shown operand}: No such file or directory"
      else
        Run.write (Octets.ofText (Path.absolute found.place).text ++ "\n")
        return 0
    | .error fault => refuse name s!"{Octets.shown operand}: {fault.reason}"

end PullReview.Rehearsal.Tool
