import PullReview.Fault

/-!
# Commands as shell words

A command in a setting is cut into words as a shell does it: at blanks outside
quotes, with everything literal between apostrophes, and with a backslash
taking the next character as it is (between double quotes only a backslash or
a double quote).
-/

namespace PullReview.ShellWords

/-- Where the reader is: between words, in a word, in quotes, or behind a
backslash of one of the two. -/
inductive Mode where
  | between
  | word
  | literal
  | quotes
  | escaped
  | escapedInQuotes
  deriving DecidableEq, Repr

def isBlank (c : Char) : Bool := c = ' ' || c = '\t' || c = '\r' || c = '\n'

/-- Reads on from a mode with the open word and the finished words in reverse. -/
def readFrom : Mode → List Char → List Char → List String → Except Fault (List String)
  | .between, [], _, done => .ok done.reverse
  | .word, [], word, done => .ok (String.ofList word.reverse :: done).reverse
  | .literal, [], _, _ => .error (.data .unclosedQuote)
  | .quotes, [], _, _ => .error (.data .unclosedQuote)
  | .escaped, [], _, _ => .error (.data .nothingEscaped)
  | .escapedInQuotes, [], _, _ => .error (.data .nothingEscaped)
  | .between, c :: cs, _, done =>
    if isBlank c then readFrom .between cs [] done
    else if c = '\'' then readFrom .literal cs [] done
    else if c = '"' then readFrom .quotes cs [] done
    else if c = '\\' then readFrom .escaped cs [] done
    else readFrom .word cs [c] done
  | .word, c :: cs, word, done =>
    if isBlank c then readFrom .between cs [] (String.ofList word.reverse :: done)
    else if c = '\'' then readFrom .literal cs word done
    else if c = '"' then readFrom .quotes cs word done
    else if c = '\\' then readFrom .escaped cs word done
    else readFrom .word cs (c :: word) done
  | .literal, c :: cs, word, done =>
    if c = '\'' then readFrom .word cs word done else readFrom .literal cs (c :: word) done
  | .quotes, c :: cs, word, done =>
    if c = '"' then readFrom .word cs word done
    else if c = '\\' then readFrom .escapedInQuotes cs word done
    else readFrom .quotes cs (c :: word) done
  | .escaped, c :: cs, word, done => readFrom .word cs (c :: word) done
  | .escapedInQuotes, c :: cs, word, done =>
    if c = '"' || c = '\\' then readFrom .quotes cs (c :: word) done
    else readFrom .quotes cs (c :: '\\' :: word) done

/-- The words of a command. -/
def ofText (s : String) : Except Fault (List String) := readFrom .between s.toList [] []

end PullReview.ShellWords
