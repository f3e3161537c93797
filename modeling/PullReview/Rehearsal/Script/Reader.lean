import PullReview.Rehearsal.Script.Token

/-!
# Reading scripts

Commands are read by recursive descent, one complete command line at a time, so
that the commands before a mistake still run. Reading the scripts that are
nested in others is a parameter of each step; the knot is tied by depth, of
which the length of the text is enough.
-/

namespace PullReview.Rehearsal

/-- How the scripts and commands inside others are read. -/
structure Nested where
  /-- commands up to a token that ends them; there may be none if so asked -/
  list : Bool → Reading Script
  /-- a single command, for which line ends may be skipped -/
  command : Bool → Reading Script

/-- Where lists of commands stand. -/
inductive Rank where
  /-- a line of a whole script, which ends it -/
  | top
  /-- in another command, with a token behind it that ends it -/
  | inner (mayBeEmpty : Bool)
  deriving DecidableEq

namespace Nested

open Reading

/-- How many steps reading what is left can take. -/
def steps : Reading Nat := return (← get).rest.length + 2

/-- Reads the script of an expansion, up to the bracket that closes it. -/
def bracketed (nested : Nested) : Reading Script := do
  let old ← get
  modify fun s => { s with held := none }
  let body ← nested.list true
  let found ← Reading.next (nested.list true) (nested.list true) false false (← steps)
  if found.isOperator ")" then
    modify fun s => { s with held := old.held }
    return body
  else unexpected found (some (.operator ")"))

/-- Reads the next token. -/
def next (nested : Nested) (skipsLines knowsKeywords : Bool) : Reading Token := do
  Reading.next nested.bracketed (nested.list true) skipsLines knowsKeywords (← steps)

/-- Reads a keyword. -/
def keyword (nested : Nested) (text : String) (skipsLines : Bool) : Reading Unit := do
  let found ← nested.next skipsLines true
  if !found.isKeyword text then unexpected found (some (.keyword text))

/-- Reads what a redirection leads to. -/
def redirection (nested : Nested) (stream : Nat) (operator : String) : Reading Redirection := do
  match ← nested.next false false with
  | .word word =>
    match operator with
    | "<" => return .read stream word
    | ">" => return .write stream word .replace
    | ">|" => return .write stream word .force
    | ">>" => return .write stream word .append
    | "<>" => return .both stream word
    | ">&" | "<&" => return .join stream word
    | _ =>
      let s ← get
      let isLiteral := word.any fun
        | .text _ quoted => quoted
        | _ => false
      let document := ⟨s.documents.size, (Word.text? word).getD "", isLiteral, operator = "<<-"⟩
      set { s with documents := s.documents.push [], awaited := s.awaited ++ [document] }
      return .here stream document.number
  | token => unexpected token

/-- The redirections that come next. -/
def redirections (nested : Nested) : Nat → Reading (List Redirection)
  | 0 => return []
  | fuel + 1 => do
    match ← nested.next false true with
    | .redirection stream operator =>
      let first ← nested.redirection stream operator
      return first :: (← redirections nested fuel)
    | token =>
      hold token
      return []

/-- The words that come next, and the token behind them. -/
def words (nested : Nested) : Nat → Reading (List Word × Token)
  | 0 => return ([], .ending)
  | fuel + 1 => do
    match ← nested.next false false with
    | .word word =>
      let (more, token) ← words nested fuel
      return (word :: more, token)
    | token => return ([], token)

/-- A command of settings, words and redirections. -/
structure Simple where
  settings : List (String × Word) := []
  words : List Word := []
  redirections : List Redirection := []

/-- Reads on in a simple command, which may turn out to define a function. -/
def simpleFrom (nested : Nested) (line : Nat) : Nat → Simple → Reading Script
  | 0, _ => return .nothing
  | fuel + 1, c => do
    match ← nested.next false false with
    | .word word =>
      match (Word.setting? word).filter fun _ => c.words.isEmpty with
      | some setting => simpleFrom nested line fuel { c with settings := c.settings ++ [setting] }
      | none => simpleFrom nested line fuel { c with words := c.words ++ [word] }
    | .redirection stream operator =>
      let r ← nested.redirection stream operator
      simpleFrom nested line fuel { c with redirections := c.redirections ++ [r] }
    | token =>
      match c.words with
      | [name] =>
        if token.isOperator "(" && c.settings.isEmpty && c.redirections.isEmpty then
          let found ← nested.next false false
          if !found.isOperator ")" then unexpected found (some (.operator ")"))
          match Word.plain? name with
          | some name =>
            if Script.isName name && !Script.specialNames.contains name then
              return .definition name (← nested.command true)
            else complain "Bad function name"
          | none => complain "Bad function name"
        else
          hold token
          return .command line c.settings c.words c.redirections
      | _ =>
        hold token
        return .command line c.settings c.words c.redirections

/-- The branches behind a test, up to what closes them. -/
def choiceFrom (nested : Nested) : Nat → Reading Script
  | 0 => return .nothing
  | fuel + 1 => do
    let test ← nested.list false
    nested.keyword "then" false
    let yes ← nested.list false
    let found ← nested.next false false
    if found.isKeyword "elif" then return .choice test yes (← choiceFrom nested fuel)
    else if found.isKeyword "else" then
      let no ← nested.list false
      nested.keyword "fi" false
      return .choice test yes no
    else if found.isKeyword "fi" then return .choice test yes .nothing
    else unexpected found (some (.keyword "fi"))

/-- The body of a loop. -/
def loopBody (nested : Nested) (skipsLines : Bool) : Reading Script := do
  nested.keyword "do" skipsLines
  let body ← nested.list false
  nested.keyword "done" false
  return body

/-- A loop over words, behind its keyword. -/
def each (nested : Nested) (line : Nat) : Reading Script := do
  let name ← match ← nested.next false false with
    | .word word =>
      match (Word.plain? word).filter Script.isName with
      | some name => pure name
      | none => complain "Bad for loop variable"
    | _ => complain "Bad for loop variable"
  let found ← nested.next true true
  if found.isKeyword "in" then
    let (items, token) ← nested.words (← steps)
    match token with
    | .lineEnd => pure ()
    | token => if !token.isOperator ";" then unexpected token
    return .each line name items (← nested.loopBody true)
  else
    if !found.isOperator ";" then hold found
    return .each line name [[.parameter "@" .value true]] (← nested.loopBody true)

/-- The patterns of a branch; `first` is the token that is their first word. -/
def patternsFrom (nested : Nested) : Nat → Token → Reading (List Word)
  | 0, _ => return []
  | fuel + 1, first => do
    let pattern ← match first with
      | .word word => pure word
      | .keyword text => pure [.text text false]
      | token => unexpected token (some (.operator ")"))
    let found ← nested.next false false
    if found.isOperator "|" then
      return pattern :: (← patternsFrom nested fuel (← nested.next false false))
    else if found.isOperator ")" then return [pattern]
    else unexpected found (some (.operator ")"))

/-- The branches of a case distinction, up to its end. -/
def branchesFrom (nested : Nested) : Nat → Reading (List (List Word × Script))
  | 0 => return []
  | fuel + 1 => do
    let first ← nested.next true true
    if first.isKeyword "esac" then return []
    let first ← if first.isOperator "(" then nested.next false false else pure first
    let patterns ← nested.patternsFrom (← steps) first
    let body ← nested.list true
    let found ← nested.next true true
    if found.isKeyword "esac" then return [(patterns, body)]
    else if found.isOperator ";;" then return (patterns, body) :: (← branchesFrom nested fuel)
    else unexpected found (some (.operator ";;"))

/-- A compound command that may have redirections behind it. -/
def closed (nested : Nested) (line : Nat) (body : Script) : Reading Script := do
  let rs ← nested.redirections (← steps)
  match body with
  | .apart line body _ => return .apart line body rs
  | body => return if rs.isEmpty then body else .redirected line body rs

/-- Reads a command. -/
def readCommand (nested : Nested) (skipsLines : Bool) : Reading Script := do
  let first ← nested.next skipsLines true
  let line := (← get).line
  match first with
  | .word _ | .redirection .. =>
    hold first
    nested.simpleFrom line (← steps) {}
  | .operator "(" =>
    let body ← nested.list false
    let found ← nested.next false false
    if !found.isOperator ")" then unexpected found (some (.operator ")"))
    nested.closed line (.apart line body [])
  | .keyword "\x7b" =>
    let body ← nested.list false
    nested.keyword "\x7d" false
    nested.closed line body
  | .keyword "if" => nested.closed line (← nested.choiceFrom (← steps))
  | .keyword "while" =>
    let test ← nested.list false
    nested.closed line (.loop true test (← nested.loopBody false))
  | .keyword "until" =>
    let test ← nested.list false
    nested.closed line (.loop false test (← nested.loopBody false))
  | .keyword "for" => nested.closed line (← nested.each line)
  | .keyword "case" =>
    match ← nested.next false false with
    | .word subject =>
      nested.keyword "in" true
      nested.closed line (.branches line subject (← nested.branchesFrom (← steps)))
    | token => unexpected token (some (.word []))
  | token => unexpected token

/-- The commands behind `|`. -/
def pipedFrom (nested : Nested) : Nat → Reading (List Script)
  | 0 => return []
  | fuel + 1 => do
    let found ← nested.next false false
    if found.isOperator "|" then
      let part ← nested.command true
      return part :: (← pipedFrom nested fuel)
    else
      hold found
      return []

/-- Reads commands joined by `|`. -/
def pipeline (nested : Nested) (skipsLines : Bool) : Reading Script := do
  let first ← nested.next skipsLines true
  let isNegated := first.isKeyword "!"
  if !isNegated then hold first
  let part ← nested.command false
  let others ← nested.pipedFrom (← steps)
  let script := if others.isEmpty then part else .piped (part :: others)
  return if isNegated then .negated script else script

/-- Reads on in pipelines joined by `&&` and `||`. -/
def chainFrom (nested : Nested) : Nat → Script → Reading Script
  | 0, done => return done
  | fuel + 1, done => do
    let found ← nested.next false false
    if found.isOperator "&&" then chainFrom nested fuel (.both done (← nested.pipeline true))
    else if found.isOperator "||" then chainFrom nested fuel (.either done (← nested.pipeline true))
    else
      hold found
      return done

/-- Joins a command to those before it. -/
def joined (done : Option Script) (part : Script) : Option Script :=
  some (match done with
    | some done => .sequence done part
    | none => part)

/-- Reads on in a list of commands; nothing if the text has come to its end. -/
def listFrom (nested : Nested) (rank : Rank) : Nat → Bool → Option Script → Reading (Option Script)
  | 0, _, done => return done
  | fuel + 1, mayEnd, done => do
    let found ← nested.next (rank ≠ .top) true
    match found with
    | .lineEnd => return some (done.getD .nothing)
    | .ending =>
      hold .ending
      return done
    | token =>
      hold token
      if mayEnd && rank ≠ .top && token.endsList then return some (done.getD .nothing)
      else
        let part ← nested.chainFrom (← steps) (← nested.pipeline false)
        let found ← nested.next false false
        let done := joined done (if found.isOperator "&" then .background part else part)
        match found with
        | .ending =>
          hold .ending
          return done
        | .lineEnd =>
          hold .lineEnd
          listFrom nested rank fuel true done
        | token =>
          if token.isOperator "&" || token.isOperator ";" then listFrom nested rank fuel true done
          else if rank = .top then unexpected token
          else
            hold token
            return done

end Nested

namespace Script

mutual

/-- Reads commands nested at most so deep. -/
def readList : Nat → Bool → Reading Script
  | 0, _ => Reading.complain "end of file unexpected"
  | depth + 1, mayBeEmpty => do
    let nested : Nested := ⟨readList depth, readCommand depth⟩
    let script ← nested.listFrom (.inner mayBeEmpty) (← Nested.steps) mayBeEmpty none
    return script.getD .nothing

/-- Reads a command nested at most so deep. -/
def readCommand : Nat → Bool → Reading Script
  | 0, _ => Reading.complain "end of file unexpected"
  | depth + 1, skipsLines => Nested.readCommand ⟨readList depth, readCommand depth⟩ skipsLines

end

/-- Reads a text as the content of a here-document. -/
def documentOf (text : String) : Reading Word := do
  let nested : Nested := ⟨readList text.length, readCommand text.length⟩
  Reading.elsewhere text.toList
    (Reading.wordFrom nested.bracketed (nested.list true) (text.length + 1) .document [])

/-- Reads the next complete command line; nothing at the end of the text. -/
def next? : Reading (Option Script) := do
  modify fun s => { s with held := none }
  let depth ← Nested.steps
  Nested.listFrom ⟨readList depth, readCommand depth⟩ .top depth false none

end Script

end PullReview.Rehearsal
