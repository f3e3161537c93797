import PullReview.Rehearsal.Script.Machine
import PullReview.Rehearsal.Script.Numeral

/-!
# Questions

A question is a list of words about texts, numbers and files, joined by `-a`,
`-o`, `!` and brackets. Inside scripts any words are read as such an expression;
the tool on the host goes by the number of words first. Both tell what keeps a
list from being a question.
-/

namespace PullReview.Rehearsal.Question

/-- What is wrong with a question. -/
inductive Mistake where
  | noNumber (text : String)
  | argumentExpected (operator : String)
  | unexpected (word : String)
  | bracketExpected (found : Option String)
  | missingAfter (word : String)
  | notUnary (word : String)
  | notBinary (word : String)
  | extra (word : String)

/-- What the interpreter says about it. -/
def Mistake.message : Mistake → String
  | .noNumber text => s!"Illegal number: {text}"
  | .argumentExpected operator => s!"{operator}: argument expected"
  | .unexpected "" => "unexpected operator"
  | .unexpected word => s!"{word}: unexpected operator"
  | _ => "closing paren expected"

/-- What the tool says about it. -/
def Mistake.toolMessage : Mistake → String
  | .noNumber text => s!"invalid integer {Octets.named text}"
  | .missingAfter word => s!"missing argument after {Octets.named word}"
  | .notUnary word => s!"{Octets.named word}: unary operator expected"
  | .notBinary word => s!"{Octets.named word}: binary operator expected"
  | .bracketExpected none => "')' expected"
  | .bracketExpected (some word) => s!"')' expected, found {Octets.named word}"
  | .extra word | .argumentExpected word | .unexpected word => s!"extra argument {Octets.named word}"

def unaryOperators : List String := ["-r", "-w", "-x", "-e", "-f", "-d", "-c", "-b", "-p", "-u",
  "-g", "-k", "-s", "-t", "-z", "-n", "-h", "-O", "-G", "-L", "-S"]

def comparisons : List String := ["=", "!=", "-eq", "-ne", "-ge", "-gt", "-le", "-lt", "-nt", "-ot",
  "-ef", "=="]

def binaryOperators : List String := comparisons ++ ["<", ">"]

/-- Whether a file can be run. -/
def isRunnable (m : Machine) (path : Path) : Bool :=
  match m.tree.walk path true with
  | .ok ⟨_, some (.dir _)⟩ => true
  | .ok ⟨place, some _⟩ => m.runnable.contains place
  | _ => false

/-- The answer to a question about one word. -/
def unary (m : Machine) (operator word : String) : Bool :=
  let path := pathOf word
  let isDevice := word = "/dev/null" || word = "/dev/zero"
  let isThere := word ≠ "" && ((m.tree.find? path).isSome || isDevice)
  match operator with
  | "-z" => word = ""
  | "-n" => word ≠ ""
  | "-e" | "-r" | "-w" | "-O" | "-G" => isThere
  | "-f" => isThere && m.tree.isFile path
  | "-d" => isThere && m.tree.isDir path
  | "-c" => isDevice
  | "-s" => isThere && (m.tree.isDir path || (m.tree.content? path).any (0 < ·.size))
  | "-x" => isThere && isRunnable m path
  | "-h" | "-L" =>
    match m.tree.walk path false with
    | .ok ⟨_, some (.link _)⟩ => true
    | _ => false
  | _ => false

/-- The answer to a question about two words. Only numbers in scripts are limited. -/
def binary (m : Machine) (limited : Bool) (left operator right : String) :
    Except Mistake Bool := do
  let number (text : String) : Except Mistake Int :=
    let n := Numeral.read 10 text.toList
    if n.found && n.rest.all Numeral.isBlank && (n.fits || !limited) then .ok n.exact
    else .error (.noNumber text)
  let compare (holds : Int → Int → Bool) : Except Mistake Bool := do
    return holds (← number left) (← number right)
  match operator with
  | "=" | "==" => return left = right
  | "!=" => return left ≠ right
  | "<" => return left < right
  | ">" => return right < left
  | "-eq" => compare fun a b => a = b
  | "-ne" => compare fun a b => a ≠ b
  | "-lt" => compare fun a b => a < b
  | "-le" => compare fun a b => a ≤ b
  | "-gt" => compare fun a b => b < a
  | "-ge" => compare fun a b => b ≤ a
  | "-ef" =>
    match m.tree.walk (pathOf left) true, m.tree.walk (pathOf right) true with
    | .ok a, .ok b => return a.node.isSome && a.place = b.place
    | _, _ => return false
  | _ => return false

/-- The words that are left of a question. -/
abbrev Asking := StateT (List String) (Except Mistake)

/-! ## In scripts -/

/-- The words are read from the present one on; an expression ends at its last word,
and what follows is seen by looking one further. -/
def isUnary (words : List String) : Bool :=
  unaryOperators.contains (words.headD "") && match words with
    | [_] => false
    | [_, _] => true
    | _ :: next :: _ => !(binaryOperators ++ ["-a", "-o"]).contains next
    | [] => false

mutual

/-- Reads parts joined by `-o`. -/
def either (m : Machine) : Nat → Asking Bool
  | 0 => return false
  | fuel + 1 => do
    let first ← both m fuel
    match (← get).tail with
    | "-o" :: rest =>
      set rest
      let second ← either m fuel
      return first || second
    | _ => return first

/-- Reads parts joined by `-a`. -/
def both (m : Machine) : Nat → Asking Bool
  | 0 => return false
  | fuel + 1 => do
    let first ← negatable m fuel
    match (← get).tail with
    | "-a" :: rest =>
      set rest
      let second ← both m fuel
      return first && second
    | _ => return first

/-- Reads a part, which `!` may negate. -/
def negatable (m : Machine) : Nat → Asking Bool
  | 0 => return false
  | fuel + 1 => do
    match ← get with
    | "!" :: rest =>
      if rest.isEmpty then return true
      set rest
      return !(← negatable m fuel)
    | words => primary m fuel words

/-- Reads a single question. -/
def primary (m : Machine) : Nat → List String → Asking Bool
  | 0, _ | _, [] => return false
  | fuel + 1, word :: rest => do
    if word = "(" && !rest.isEmpty then
      set rest
      if rest.head? = some ")" then return false
      let answer ← either m fuel
      let after := (← get).tail
      if after.head? ≠ some ")" then throw (.bracketExpected after.head?)
      set after
      return answer
    else if isUnary (word :: rest) then
      match rest with
      | [] => throw (.argumentExpected word)
      | argument :: _ =>
        set rest
        return unary m word argument
    else
      match rest with
      | operator :: after =>
        if binaryOperators.contains operator && operator ≠ "==" then
          match after with
          | [] => throw (.argumentExpected operator)
          | argument :: _ =>
            set after
            binary m true word operator argument
        else return word ≠ ""
      | [] => return word ≠ ""

end

/-- The answer to words in a script. -/
def answer (m : Machine) (words : List String) : Except Mistake Bool := do
  let fuel := 4 * words.length + 4
  let inner := (words.drop 1).dropLast
  let isBracketed := words.head? = some "(" && words.getLast? = some ")"
  let (result, rest) ← match words with
    | [] => return false
    | [left, operator, right] =>
      if binaryOperators.contains operator && operator ≠ "==" then
        return ← binary m true left operator right
      else (either m fuel).run (if isBracketed then inner else words)
    | words => (either m fuel).run (if words.length = 4 && isBracketed then inner else words)
  match rest with
  | _ :: word :: _ => throw (.unexpected (rest.headD word))
  | _ => return result

/-! ## By the tool -/

/-- Takes the present word off; another one has to follow if so asked. -/
def advance (needsMore : Bool) : Asking Unit := do
  let words ← get
  set words.tail
  if needsMore && words.tail.isEmpty then throw (.missingAfter (words.headD ""))

/-- Reads a question about one word. -/
def toolUnary (m : Machine) : Asking Bool := do
  match ← get with
  | operator :: rest =>
    if !(unaryOperators ++ ["-N"]).contains operator then throw (.notUnary operator)
    match rest with
    | word :: after =>
      set after
      return unary m operator word
    | [] => throw (.missingAfter operator)
  | [] => return false

/-- Reads a question about two words. -/
def toolBinary (m : Machine) : Asking Bool := do
  match ← get with
  | left :: operator :: right :: rest =>
    set rest
    binary m false left operator right
  | _ => return false

def isOption (word : String) : Bool := word.startsWith "-" && word.length = 2

mutual

/-- Reads as many words as are said to belong together. -/
def byCount (m : Machine) : Nat → Nat → Asking Bool
  | 0, _ => return false
  | fuel + 1, count => do
    let words ← get
    let word (i : Nat) : String := words.getD i ""
    match count with
    | 1 =>
      advance false
      return word 0 ≠ ""
    | 2 =>
      if word 0 = "!" then
        advance false
        return !(← byCount m fuel 1)
      else if isOption (word 0) then toolUnary m
      else throw (.missingAfter (words.getLastD ""))
    | 3 =>
      if comparisons.contains (word 1) then toolBinary m
      else if word 0 = "!" then
        advance true
        return !(← byCount m fuel 2)
      else if word 0 = "(" && word 2 = ")" then
        advance false
        let answer ← byCount m fuel 1
        advance false
        return answer
      else if word 1 = "-a" || word 1 = "-o" then joined m fuel "-o"
      else throw (.notBinary (word 1))
    | count =>
      if count = 4 && word 0 = "!" then
        advance true
        return !(← byCount m fuel 3)
      else if count = 4 && word 0 = "(" && word 3 = ")" then
        advance false
        let answer ← byCount m fuel 2
        advance false
        return answer
      else joined m fuel "-o"

/-- Reads parts joined by an operator, `-o` or the stronger `-a`. -/
def joined (m : Machine) : Nat → String → Asking Bool
  | 0, _ => return false
  | fuel + 1, operator => do
    let first ← if operator = "-o" then joined m fuel "-a" else term m fuel
    if (← get).head? = some operator then
      let words ← get
      advance false
      if words.tail.isEmpty then throw (.missingAfter operator)
      let second ← joined m fuel operator
      return if operator = "-o" then first || second else first && second
    else return first

/-- Reads a single question. -/
def term (m : Machine) : Nat → Asking Bool
  | 0 => return false
  | fuel + 1 => do
    let words ← get
    match words with
    | "!" :: _ =>
      advance true
      return !(← term m fuel)
    | "(" :: rest =>
      advance true
      let found := ((rest.drop 1).take 4).findIdx? (· = ")")
      let count := match found with
        | some i => i + 1
        | none => rest.length
      let answer ← byCount m fuel count
      match ← get with
      | ")" :: _ =>
        advance false
        return answer
      | others => throw (.bracketExpected others.head?)
    | word :: next :: _ =>
      if words.length ≥ 3 && comparisons.contains next then toolBinary m
      else if isOption word then toolUnary m
      else
        advance false
        return word ≠ ""
    | [word] =>
      if isOption word then toolUnary m
      else
        advance false
        return word ≠ ""
    | [] => return false

end

/-- The answer of the tool. -/
def toolAnswer (m : Machine) (words : List String) : Except Mistake Bool := do
  if words.isEmpty then return false
  let (result, rest) ← (byCount m (6 * words.length + 6) words.length).run words
  match rest with
  | word :: _ => throw (.extra word)
  | [] => return result

end PullReview.Rehearsal.Question

namespace PullReview.Rehearsal.Machine

/-!
## Finding programs

A name without a slash is looked for in the directories of the search path; the
first that holds a file of that name which can be run counts. A name with a
slash is a path.
-/

/-- The place of a program by its path. -/
def programAt (m : Machine) (name : String) : Except FileFault (List String) :=
  let path := pathOf name
  match m.tree.walk path true with
  | .error obstacle => .error (obstacle.fault path)
  | .ok ⟨_, none⟩ => .error (.notFound path)
  | .ok ⟨place, some (.file _)⟩ =>
    if name.endsWith "/" then .error (.notDirectory path)
    else if m.runnable.contains place then .ok place
    else .error (.denied path)
  | .ok _ => .error (.denied path)

/-- Whether a fault says that there is nothing. -/
def isMissing : FileFault → Bool
  | .notFound _ | .notDirectory _ => true
  | _ => false

/-- The paths that a name may mean, by a search path. -/
def candidates (path name : String) : List String :=
  (Text.splitAtEach ':' path.toList).map fun directory =>
    if directory.isEmpty then name
    else if directory.getLast? = some '/' then String.ofList directory ++ name
    else String.ofList directory ++ "/" ++ name

/-- The first path that leads to a program, with its place. Of several faults the first
counts that is not about something missing. -/
def searchIn (m : Machine) (name : String) : List String → Except FileFault (String × List String)
  | [] => .error (.notFound (pathOf name))
  | [path] => (m.programAt path).map fun place => (path, place)
  | path :: rest =>
    match m.programAt path with
    | .ok place => .ok (path, place)
    | .error fault =>
      match m.searchIn name rest with
      | .ok found => .ok found
      | .error later => .error (if isMissing fault then later else fault)

/-- The path and the place of a program that a name means. -/
def search (m : Machine) (path name : String) : Except FileFault (String × List String) :=
  if name.toList.contains '/' then (m.programAt name).map fun place => (name, place)
  else if name = "" then .error (.notFound (pathOf name))
  else m.searchIn name (candidates path name)

/-- The search path of the machine. -/
def searchPath (m : Machine) : String := (m.value? "PATH").getD ""

/-- Why a program does not start, as scripts put it, and the status that follows. -/
def absence (fault : FileFault) : String × Nat :=
  match fault with
  | .notFound _ | .notDirectory _ => ("not found", 127)
  | .tooManyLinks _ | .nameTooLong _ => (fault.reason, 127)
  | _ => (fault.reason, 126)

end PullReview.Rehearsal.Machine
