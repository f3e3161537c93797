import PullReview.Fault
import PullReview.Text.Lines

/-!
# Content types

A content type is a kind, such as `text/plain`, and parameters behind
semicolons. The value of a parameter may stand in quotes, where a semicolon
does not count, and it may come in several numbered sections, some of them with
percent escapes. The parameter that matters here names the encoding of a text.
-/

namespace PullReview.ContentType

/-- Cuts at the semicolons outside quotes. A quote behind a backslash does not
count, and an open one holds all that follows. -/
def pieces (escaped quoted : Bool) : List Char → List (List Char)
  | [] => [[]]
  | c :: cs =>
    if c = ';' && !quoted then [] :: pieces false false cs
    else
      let quoted := if c = '"' && !escaped then !quoted else quoted
      match pieces (c = '\\') quoted cs with
      | first :: rest => (c :: first) :: rest
      | [] => [[c]]

/-- A parameter: its name and its value as they stand there. -/
structure Parameter where
  name : List Char
  value : List Char

/-- Reads a parameter. The name in front of a value is taken in small letters. -/
def Parameter.ofPiece (piece : List Char) : Parameter :=
  let name := piece.takeWhile (· ≠ '=')
  if name.length = piece.length then ⟨Text.trim piece, []⟩
  else ⟨(Text.trim name).map Char.toLower, Text.trim (piece.drop (name.length + 1))⟩

/-- Replaces a pair of a backslash and another character by that character. -/
def withoutEscape (other : Char) : List Char → List Char
  | a :: b :: cs =>
    if a = '\\' && b = other then other :: withoutEscape other cs
    else a :: withoutEscape other (b :: cs)
  | cs => cs

/-- A value without quotes or angle brackets around it. -/
def unquoted (cs : List Char) : List Char :=
  match cs, cs.getLast? with
  | '"' :: inner :: rest, some '"' =>
    withoutEscape '"' (withoutEscape '\\' (inner :: rest).dropLast)
  | '<' :: inner :: rest, some '>' => (inner :: rest).dropLast
  | _, _ => cs

/-- A section of a value: its number, if it has one, its text, and whether the
text has escapes. -/
structure Section where
  number : Option Nat
  text : List Char
  hasEscapes : Bool

/-- The name of the parameter that a parameter is a section of, with the section. -/
def Parameter.section? (p : Parameter) : Option (List Char × Section) :=
  let isWord (c : Char) : Bool := c.isAlphanum || c = '_'
  let isDigit (c : Char) : Bool := '0' ≤ c && c ≤ '9'
  let name := p.name.takeWhile isWord
  let part (number : Option Nat) : Option (List Char × Section) :=
    some (name, ⟨number, unquoted p.value, p.name.getLast? = some '*'⟩)
  match name, p.name.drop name.length with
  | _ :: _, ['*'] => part none
  | _ :: _, '*' :: tail =>
    let digits := tail.takeWhile isDigit
    if !digits.isEmpty && [[], ['*']].contains (tail.drop digits.length) then
      part (some (Numeral.ofDigits (Numeral.digitValues digits)))
    else none
  | _, _ => none

/-- The order of sections: by number, then by text. -/
def Section.comesBefore (a b : Section) : Bool :=
  let key (s : Section) : Nat := s.number.getD 0
  key a < key b || (key a = key b && (a.text < b.text || (a.text = b.text && !a.hasEscapes)))

/-- The value that sections write together. Escaped values begin with a
character set and a language, each ended by an apostrophe. -/
def valueOf (sections : List Section) : List Char :=
  let rec unescape : List Char → List Char
    | '%' :: a :: b :: cs =>
      match Json.hexValue? a, Json.hexValue? b with
      | some x, some y => Char.ofNat (x * 16 + y) :: unescape cs
      | _, _ => '%' :: unescape (a :: b :: cs)
    | c :: cs => c :: unescape cs
    | [] => []
  let sorted := sections.mergeSort Section.comesBefore
  let text := (sorted.map fun s => if s.hasEscapes then unescape s.text else s.text).flatten
  match sections.any (·.hasEscapes), Text.splitAtEach '\'' text with
  | true, _ :: _ :: rest@(_ :: _) => (rest.intersperse ['\'']).flatten
  | _, _ => text

/-- Sections of one parameter are put in order by their numbers; all or none of
them must have one. -/
def checkNumbers (sections : List Section) : Except Fault Unit :=
  if sections.any (·.number.isSome) && sections.any (·.number.isNone) then
    .error (.misuse (.unordered "int" "NoneType"))
  else .ok ()

/-- The encoding that a content type names, in small letters. A parameter as a
whole comes before one in sections; a name outside ASCII is no name. -/
def charset? (contentType : String) : Except Fault (Option String) := do
  let lower (cs : List Char) : List Char := cs.map Char.toLower
  let isCharset (name : List Char) : Bool := lower name = "charset".toList
  let (first, more) : Parameter × List Parameter :=
    match (pieces false false contentType.toList).map Parameter.ofPiece with
    | [] => (⟨[], []⟩, [])
    | first :: more => (first, more)
  let sections := more.filterMap Parameter.section?
  for (name, _) in sections do
    checkNumbers ((sections.filter (·.1 = name)).map (·.2))
  let whole := first :: more.filter fun p => p.section?.isNone
  let value : Option (List Char) :=
    match whole.find? fun p => isCharset p.name, sections.find? fun s => isCharset s.1 with
    | some p, _ => some (unquoted p.value)
    | none, some (name, _) => some (valueOf ((sections.filter (·.1 = name)).map (·.2)))
    | none, none => none
  return (value.filter fun cs => cs.all (·.toNat < 0x80)).map fun cs => String.ofList (lower cs)

end PullReview.ContentType
