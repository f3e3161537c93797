/-!
# Scripts

A script is what a command interpreter works off: commands made of words,
joined by the usual connectives. A word is a list of pieces; what stands between
quotes is never cut at blanks and holds no wildcards. Here-documents are kept
apart, and a redirection names the one it reads by a number.
-/

namespace PullReview.Rehearsal

/-- What is done instead of taking a value as it is. -/
inductive Deed where
  /-- `-`: another value is used for a missing one -/
  | use
  /-- `=`: and the parameter is set to it -/
  | assign
  /-- `?`: a missing value is an error -/
  | refuse
  /-- `+`: another value is used for one that is there -/
  | replace
  deriving DecidableEq, Repr

/-- How a file is opened for writing. -/
inductive Opening where
  /-- emptied, unless files that are there are to be left alone -/
  | replace
  /-- emptied in any case -/
  | force
  | append
  deriving DecidableEq, Repr

mutual

/-- A piece of a word. -/
inductive Piece where
  | text (content : String) (quoted : Bool)
  | parameter (name : String) (view : View) (quoted : Bool)
  /-- the value of a sum -/
  | sum (source : List Piece) (quoted : Bool)
  /-- what a script writes -/
  | output (body : Script) (quoted : Bool)

/-- How the value of a parameter is looked at. -/
inductive View where
  | value
  | length
  | otherwise (deed : Deed) (emptyCounts : Bool) (word : List Piece)
  /-- without a part at one end that fits a pattern -/
  | trimmed (fromEnd longest : Bool) (pattern : List Piece)
  /-- none that is known -/
  | unknown

/-- How a stream is redirected. -/
inductive Redirection where
  | read (stream : Nat) (source : List Piece)
  | write (stream : Nat) (target : List Piece) (opening : Opening)
  | both (stream : Nat) (target : List Piece)
  /-- to where another stream goes -/
  | join (stream : Nat) (target : List Piece)
  /-- from a here-document -/
  | here (stream : Nat) (document : Nat)

inductive Script where
  | nothing
  /-- settings of variables, words and redirections of a command on a line -/
  | command (line : Nat) (settings : List (String × List Piece)) (words : List (List Piece))
      (redirections : List Redirection)
  | sequence (first second : Script)
  | both (first second : Script)
  | either (first second : Script)
  | piped (parts : List Script)
  | negated (body : Script)
  | background (body : Script)
  | choice (test yes no : Script)
  /-- runs the body as long as the test ends as wanted -/
  | loop (wanted : Bool) (test body : Script)
  | each (line : Nat) (name : String) (items : List (List Piece)) (body : Script)
  /-- the first branch with a pattern that fits the subject -/
  | branches (line : Nat) (subject : List Piece) (cases : List (List (List Piece) × Script))
  /-- on its own: changes stay inside -/
  | apart (line : Nat) (body : Script) (redirections : List Redirection)
  | redirected (line : Nat) (body : Script) (redirections : List Redirection)
  | definition (name : String) (body : Script)

end

abbrev Word := List Piece

instance : Inhabited Script := ⟨.nothing⟩

/-- The text of a word of text without quotes. -/
def Word.plain? : Word → Option String
  | [] => some ""
  | .text content false :: rest => (Word.plain? rest).map (content ++ ·)
  | _ => none

/-- The text of a word of text, whatever is quoted. -/
def Word.text? : Word → Option String
  | [] => some ""
  | .text content _ :: rest => (Word.text? rest).map (content ++ ·)
  | _ => none

namespace Script

def isNameStart (c : Char) : Bool := c.isAlpha || c = '_'

def isNamePart (c : Char) : Bool := c.isAlphanum || c = '_'

/-- Whether a text can name a variable. -/
def isName (s : String) : Bool :=
  match s.toList with
  | c :: cs => isNameStart c && cs.all isNamePart
  | [] => false

/-- Commands with a meaning of their own: an error in one of them ends a script,
and no function can have their names. -/
def specialNames : List String := [".", ":", "break", "continue", "eval", "exec", "exit", "export",
  "local", "readonly", "return", "set", "shift", "times", "trap", "unset"]

end Script

/-- A setting `name=value`. -/
def Word.setting? : Word → Option (String × Word)
  | .text content false :: rest =>
    let name := content.toList.takeWhile (· ≠ '=')
    if name.length < content.length && Script.isName (String.ofList name) then
      some (String.ofList name,
        .text (String.ofList (content.toList.drop (name.length + 1))) false :: rest)
    else none
  | _ => none

end PullReview.Rehearsal
