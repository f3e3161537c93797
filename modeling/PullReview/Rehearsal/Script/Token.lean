import PullReview.Rehearsal.Script.Syntax

/-!
# Tokens of scripts

Scripts are read character by character, because only what stands before tells
whether a word may be a keyword and where a here-document begins. A word is read
up to a character that ends it; quotes, braces and sums inside are words of
their own, read up to their closing mark. What stands between brackets behind a
dollar sign is a script, which is read by whoever reads whole commands.
-/

namespace PullReview.Rehearsal

/-- Why a text is no script, and on which line that shows. -/
structure Complaint where
  line : Nat
  text : String

inductive Token where
  | word (content : Word)
  | keyword (text : String)
  | operator (text : String)
  | redirection (stream : Nat) (operator : String)
  | lineEnd
  | ending

namespace Token

/-- How complaints name a token. -/
def name : Token → String
  | .word _ => "word"
  | .keyword text | .operator text => "\"" ++ text ++ "\""
  | .redirection .. => "redirection"
  | .lineEnd => "newline"
  | .ending => "end of file"

def keywords : List String := ["!", "case", "do", "done", "elif", "else", "esac", "fi", "for", "if",
  "in", "then", "until", "while", "\x7b", "\x7d"]

def isKeyword (text : String) : Token → Bool
  | .keyword t => t = text
  | _ => false

def isOperator (text : String) : Token → Bool
  | .operator t => t = text
  | _ => false

/-- Whether a list of commands ends before a token. -/
def endsList : Token → Bool
  | .ending => true
  | .operator text => [")", ";;"].contains text
  | .keyword text => ["do", "done", "elif", "else", "esac", "fi", "then", "\x7d"].contains text
  | _ => false

end Token

/-- A here-document that begins on the next line. -/
structure AwaitedDocument where
  number : Nat
  mark : String
  /-- nothing in it is expanded -/
  isLiteral : Bool
  /-- tabs at the start of lines are left out -/
  dropsTabs : Bool

/-- The text of an alias that is being read. -/
structure Alias.Reading where
  name : String
  /-- how many characters follow the text -/
  behind : Nat
  /-- whether the word behind it may be an alias too -/
  opensNext : Bool

/-- A text in the middle of being read. -/
structure Source where
  rest : List Char
  line : Nat := 1
  /-- a token that has been put back -/
  held : Option Token := none
  /-- the here-documents so far -/
  documents : Array Word := #[]
  awaited : List AwaitedDocument := []
  /-- names of commands that stand for texts -/
  aliases : List (String × String) := []
  /-- aliases of which the text is being read -/
  replaced : List Alias.Reading := []

abbrev Reading := StateT Source (Except Complaint)

namespace Reading

def complain {α : Type} (text : String) : Reading α := do
  throw ⟨(← get).line, "Syntax error: " ++ text⟩

/-- Complains about a token, and says which one could have stood there. -/
def unexpected {α : Type} (found : Token) (wanted : Option Token := none) : Reading α :=
  complain (found.name ++ " unexpected" ++ match wanted with
    | some token => " (expecting " ++ token.name ++ ")"
    | none => "")

def hold (token : Token) : Reading Unit := modify fun s => { s with held := some token }

/-- Drops a line end that is escaped, as often as it is there. -/
def joined (line : Nat) : List Char → Nat × List Char
  | '\\' :: '\n' :: cs => joined (line + 1) cs
  | cs => (line, cs)

/-- The next character, which stays where it is. -/
def peek : Reading (Option Char) := do
  let s ← get
  let (line, rest) := joined s.line s.rest
  set { s with line := line, rest := rest }
  return rest.head?

/-- Takes characters off the text. -/
def drop (n : Nat) : Reading Unit := modify fun s => { s with rest := s.rest.drop n }

/-- Takes a character off the text if it comes next. -/
def accept (c : Char) : Reading Bool := do
  if (← peek) = some c then
    drop 1
    return true
  return false

/-- Takes characters off the text as long as they are of a kind. -/
def takeWhile (p : Char → Bool) : Nat → Reading String
  | 0 => return ""
  | fuel + 1 => do
    match ← peek with
    | some c =>
      if p c then
        drop 1
        return String.singleton c ++ (← takeWhile p fuel)
      else return ""
    | none => return ""

/-- Reads another text in place of the present one, which is gone on with then. -/
def elsewhere {α : Type} (text : List Char) (body : Reading α) : Reading α := do
  let old ← get
  set { old with rest := text, held := none, replaced := [] }
  let result ← body
  modify fun s =>
    { s with rest := old.rest, line := old.line, held := old.held, replaced := old.replaced }
  return result

end Reading

/-- What a piece of text stands in. -/
inductive Within where
  | word
  | quotes
  | braces (quoted : Bool)
  /-- a sum with so many open brackets -/
  | sum (depth : Nat)
  | document
  deriving DecidableEq

namespace Within

/-- Whether text stands as if in double quotes. -/
def isQuoted : Within → Bool
  | .word | .braces false => false
  | _ => true

/-- Whether a backslash takes the meaning away from a character. -/
def escapes (w : Within) (c : Char) : Bool :=
  !w.isQuoted || "$\x60\\".toList.contains c || (c = '"' && w ≠ .document) ||
    (c = '}' && w = .braces true)

/-- What is missing when the text ends here. -/
def complaint? : Within → Option String
  | .word | .document => none
  | .quotes | .braces true => some "Unterminated quoted string"
  | .braces false => some "Missing '\x7d'"
  | .sum _ => some "Missing '))'"

end Within

namespace Reading

open Script

/-- Adds a character at the end of a word that is held in reverse. -/
def extend (c : Char) (quoted : Bool) : Word → Word
  | .text content q :: rest =>
    if q = quoted then .text (content.push c) q :: rest
    else .text (String.singleton c) quoted :: .text content q :: rest
  | pieces => .text (String.singleton c) quoted :: pieces

/-- Reads on to a single quote. -/
def untilQuote : Nat → Reading String
  | 0 => complain "Unterminated quoted string"
  | fuel + 1 => do
    let s ← get
    match s.rest with
    | [] => complain "Unterminated quoted string"
    | '\'' :: rest =>
      set { s with rest := rest }
      return ""
    | c :: rest =>
      set { s with rest := rest, line := if c = '\n' then s.line + 1 else s.line }
      return String.singleton c ++ (← untilQuote fuel)

/-- Reads on to a backquote and takes off the backslashes that belong to it. -/
def untilBackquote (quoted : Bool) : Nat → Reading (List Char)
  | 0 => complain "EOF in backquote substitution"
  | fuel + 1 => do
    let s ← get
    let lineAfter (c : Char) : Nat := if c = '\n' then s.line + 1 else s.line
    match s.rest with
    | [] | ['\\'] => complain "EOF in backquote substitution"
    | '\x60' :: rest =>
      set { s with rest := rest }
      return []
    | '\\' :: '\n' :: rest =>
      set { s with rest := rest, line := s.line + 1 }
      untilBackquote quoted fuel
    | '\\' :: c :: rest =>
      set { s with rest := rest, line := lineAfter c }
      let more ← untilBackquote quoted fuel
      return if "\\\x60$".toList.contains c || (quoted && c = '"') then c :: more else '\\' :: c :: more
    | c :: rest =>
      set { s with rest := rest, line := lineAfter c }
      return c :: (← untilBackquote quoted fuel)

def isSpecial (c : Char) : Bool := "?$#@*!-".toList.contains c

/-- The rest of an expansion in braces behind the name of the parameter. -/
def viewFrom (word : Within → Reading Word) (quoted : Bool) : Reading View := do
  let deed? : Option Char → Option Deed
    | some '-' => some .use
    | some '=' => some .assign
    | some '?' => some .refuse
    | some '+' => some .replace
    | _ => none
  let unknown : Reading View := do
    discard <| word (.braces quoted)
    return .unknown
  match ← peek with
  | some '}' =>
    drop 1
    return .value
  | some ':' =>
    drop 1
    match deed? (← peek) with
    | some deed =>
      drop 1
      return .otherwise deed true (← word (.braces quoted))
    | none => if ← accept '}' then return .value else unknown
  | some '%' =>
    drop 1
    let longest ← accept '%'
    return .trimmed true longest (← word (.braces false))
  | some '#' =>
    drop 1
    let longest ← accept '#'
    return .trimmed false longest (← word (.braces false))
  | c =>
    match deed? c with
    | some deed =>
      drop 1
      return .otherwise deed false (← word (.braces quoted))
    | none => unknown

/-- The name in front, of a variable or of a numbered parameter. -/
def parameterName? : Reading (Option String) := do
  let fuel := (← get).rest.length
  match ← peek with
  | some c =>
    if isNameStart c then return some (← takeWhile isNamePart fuel)
    else if c.isDigit then return some (← takeWhile Char.isDigit fuel)
    else return none
  | none => return none

/-- An expansion in braces, behind the opening one. -/
def braced (word : Within → Reading Word) (quoted : Bool) : Reading Piece := do
  let close (name : String) (view : View) : Reading Piece := do
    if ← accept '}' then return .parameter name view quoted
    discard <| word (.braces quoted)
    return .parameter name .unknown quoted
  match ← parameterName? with
  | some name => return .parameter name (← viewFrom word quoted) quoted
  | none =>
    let rest := (← get).rest
    match rest with
    | '#' :: c :: more =>
      if isNamePart c then
        drop 1
        close ((← parameterName?).getD "") .length
      else if c ≠ '}' && more.head? = some '}' && isSpecial c then
        drop 2
        close (String.singleton c) .length
      else
        drop 1
        return .parameter "#" (← viewFrom word quoted) quoted
    | c :: _ =>
      if isSpecial c then
        drop 1
        return .parameter (String.singleton c) (← viewFrom word quoted) quoted
      else close "" .unknown
    | [] => close "" .unknown

/-- The expansion behind a dollar sign; nothing if the sign stands for itself. -/
def expansion? (list : Reading Script) (word : Within → Reading Word) (quoted : Bool) :
    Reading (Option Piece) := do
  match ← peek with
  | some '(' =>
    drop 1
    if ← accept '(' then return some (.sum (← word (.sum 0)) quoted)
    else return some (.output (← list) quoted)
  | some '{' =>
    drop 1
    return some (← braced word quoted)
  | some c =>
    if isNameStart c then
      return some (.parameter (← takeWhile isNamePart (← get).rest.length) .value quoted)
    else if c.isDigit || isSpecial c then
      drop 1
      return some (.parameter (String.singleton c) .value quoted)
    else return none
  | none => return none

/-- Characters that end a word outside quotes. -/
def isBreak (c : Char) : Bool := " \t\n;&|<>()".toList.contains c

/-- Reads text up to its closing mark; `done` is reversed. The script in brackets
is read by `list`, up to the closing one, and the one in backquotes by `whole`. -/
def wordFrom (list whole : Reading Script) : Nat → Within → Word → Reading Word
  | 0, _, _ => complain "Unterminated quoted string"
  | fuel + 1, within, done => do
    let quoted := within.isQuoted
    let take (c : Char) (asQuoted : Bool) : Reading Word := do
      drop 1
      wordFrom list whole fuel within (extend c asQuoted done)
    let s ← get
    match s.rest with
    | [] =>
      match within.complaint? with
      | some text => complain text
      | none => return done.reverse
    | '\\' :: '\n' :: rest =>
      set { s with rest := rest, line := s.line + 1 }
      wordFrom list whole fuel within done
    | '\\' :: c :: _ =>
      if within.escapes c then
        drop 1
        take c true
      else take '\\' true
    | '$' :: _ =>
      drop 1
      match ← expansion? list (fun w => wordFrom list whole fuel w []) quoted with
      | some piece => wordFrom list whole fuel within (piece :: done)
      | none => wordFrom list whole fuel within (extend '$' quoted done)
    | '\x60' :: _ =>
      drop 1
      let source ← untilBackquote quoted fuel
      let body ← elsewhere source whole
      wordFrom list whole fuel within (.output body quoted :: done)
    | '"' :: _ =>
      match within with
      | .document | .sum _ => take '"' true
      | .quotes =>
        drop 1
        return done.reverse
      | .braces true =>
        drop 1
        wordFrom list whole fuel within done
      | _ =>
        drop 1
        let inner ← wordFrom list whole fuel .quotes []
        let inner := if inner.isEmpty then [.text "" true] else inner
        wordFrom list whole fuel within (inner.reverse ++ done)
    | '\'' :: _ =>
      if quoted then take '\'' true
      else
        drop 1
        let text ← untilQuote fuel
        wordFrom list whole fuel within (.text text true :: done)
    | c :: _ =>
      match within with
      | .word => if isBreak c then return done.reverse else take c false
      | .braces _ =>
        if c = '}' then
          drop 1
          return done.reverse
        else if c = '\n' then
          modify fun s => { s with line := s.line + 1 }
          take c quoted
        else take c quoted
      | .sum depth =>
        if c = '(' then
          drop 1
          wordFrom list whole fuel (.sum (depth + 1)) (extend c true done)
        else if c = ')' then
          match depth with
          | depth + 1 =>
            drop 1
            wordFrom list whole fuel (.sum depth) (extend c true done)
          | 0 =>
            drop 1
            if ← accept ')' then return done.reverse
            else wordFrom list whole fuel within (extend c true done)
        else
          if c = '\n' then modify fun s => { s with line := s.line + 1 }
          take c true
      | _ =>
        if c = '\n' then modify fun s => { s with line := s.line + 1 }
        take c true

/-- The lines of a here-document, taken off the text up to its mark. -/
def documentLines (d : AwaitedDocument) : Nat → List Char → List Char × List Char × Nat
  | 0, cs => ([], cs, 0)
  | _, [] => ([], [], 0)
  | fuel + 1, cs =>
    let cs := if d.dropsTabs then cs.dropWhile (· = '\t') else cs
    let line := cs.takeWhile (· ≠ '\n')
    let rest := cs.drop line.length
    if String.ofList line = d.mark then ([], rest.drop 1, 1)
    else
      let (more, after, count) := documentLines d fuel (rest.drop 1)
      (line ++ rest.take 1 ++ more, after, count + 1)

/-- Reads the here-documents that begin here. -/
def documents (list whole : Reading Script) : Reading Unit := do
  let awaited := (← get).awaited
  modify fun s => { s with awaited := [] }
  for d in awaited do
    let s ← get
    let (content, rest, count) := documentLines d (s.rest.length + 1) s.rest
    let word ← if d.isLiteral then pure [.text (String.ofList content) true]
      else elsewhere content (wordFrom list whole (content.length + 1) .document [])
    modify fun s => { s with
      rest := rest, line := s.line + count, documents := s.documents.setIfInBounds d.number word }

/-- The operator of a redirection, behind its first character. -/
def redirectionOperator (c : Char) : Reading String := do
  let choices : List (Char × String) :=
    if c = '>' then [('>', ">>"), ('&', ">&"), ('|', ">|")] else [('<', "<<"), ('&', "<&"), ('>', "<>")]
  match (← peek).bind fun c => choices.lookup c with
  | some operator =>
    drop 1
    if operator = "<<" then
      if ← accept '-' then return "<<-"
    return operator
  | none => return String.singleton c

/-- Reads a token. -/
def token (list whole : Reading Script) : Nat → Reading Token
  | 0 => return .ending
  | fuel + 1 => do
    match ← peek with
    | none =>
      documents list whole
      return .ending
    | some c =>
      if c = ' ' || c = '\t' then
        drop 1
        token list whole fuel
      else if c = '#' then
        modify fun s => { s with rest := s.rest.dropWhile (· ≠ '\n') }
        token list whole fuel
      else if c = '\n' then
        drop 1
        modify fun s => { s with line := s.line + 1 }
        documents list whole
        return .lineEnd
      else if c = '&' || c = '|' || c = ';' then
        drop 1
        let twice ← accept c
        return .operator (String.ofList (if twice then [c, c] else [c]))
      else if c = '(' || c = ')' then
        drop 1
        return .operator (String.singleton c)
      else
        let word ← wordFrom list whole ((← get).rest.length + 1) .word []
        let stream? : Option (Option Nat) := match Word.plain? word with
          | some "" => some none
          | some digit => if digit.length = 1 then digit.toNat?.map some else none
          | none => none
        match ← peek, stream? with
        | some c, some stream =>
          if (c = '<' || c = '>') && (word.isEmpty || stream.isSome) then
            drop 1
            return .redirection (stream.getD (if c = '<' then 0 else 1)) (← redirectionOperator c)
          else return .word word
        | _, _ => return .word word

/-- The text that a word stands for as a command; nothing while that is being read. -/
def aliasText? (s : Source) (text : String) : Option String :=
  if s.replaced.any (·.name = text) then none else s.aliases.lookup text

/-- Puts the text of an alias in front of what is left. -/
def replaceBy (name text : String) : Reading Unit := modify fun s => { s with
  rest := text.toList ++ s.rest
  replaced := ⟨name, s.rest.length, text.endsWith " " || text.endsWith "\t"⟩ :: s.replaced }

/-- Forgets the aliases that have been read to their end, and tells whether one of them
lets the next word be an alias. -/
def leaveAliases : Reading Bool := do
  let s ← get
  if s.replaced.isEmpty then return false
  let left := s.rest.length
  set { s with replaced := s.replaced.filter (·.behind ≤ left) }
  return s.replaced.any fun a => left < a.behind && a.opensNext

/-- Reads the next token; line ends before it are dropped if asked for, and a word
may be a keyword or an alias. -/
def next (list whole : Reading Script) (skipsLines knowsKeywords : Bool) : Nat → Reading Token
  | 0 => return .ending
  | fuel + 1 => do
    let held := (← get).held
    modify fun s => { s with held := none }
    let found ← match held with
      | some token => pure token
      | none => token list whole ((← get).rest.length + 1)
    let isOpened ← leaveAliases
    match found with
    | .lineEnd =>
      if skipsLines then next list whole skipsLines knowsKeywords fuel else return .lineEnd
    | .word content =>
      let text := (Word.plain? content).getD ""
      if knowsKeywords && Token.keywords.contains text then return .keyword text
      match (aliasText? (← get) text).filter fun _ => (knowsKeywords || isOpened) && held.isNone with
      | some replacement =>
        replaceBy text replacement
        next list whole skipsLines knowsKeywords fuel
      | none => return .word content
    | token => return token

end Reading

end PullReview.Rehearsal
