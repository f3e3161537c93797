import PullReview.Json.Basic
import PullReview.Number.Numeral

/-!
# Reading JSON text

The reader takes the standard grammar, and besides it the undefined number and
the infinities by name. Of members with one name the last counts. A fault names
what was missing and where: line, column and offset of the character at which
reading stopped, or of the opening quote of an unterminated string.
-/

namespace PullReview.Json

/-- What the reader missed. -/
inductive Problem where
  | value
  | propertyName
  | colon
  | comma
  | unterminatedString
  | controlCharacter
  | escapeLetter
  | escapeDigits
  | extraData
  | byteOrderMark
  deriving DecidableEq, Repr

/-- Why a text is not read. -/
inductive ReadFault where
  | syntaxAt (problem : Problem) (line column offset : Nat)
  | tooManyDigits (digits : Nat)
  /-- lists or objects are nested too deep -/
  | tooDeep (inObject : Bool)
  deriving DecidableEq, Repr

/-- Whether the text is at fault, and not the reader's limits of depth. -/
def ReadFault.isMalformed : ReadFault → Bool
  | .tooDeep _ => false
  | _ => true

def Problem.text : Problem → String
  | .value => "Expecting value"
  | .propertyName => "Expecting property name enclosed in double quotes"
  | .colon => "Expecting ':' delimiter"
  | .comma => "Expecting ',' delimiter"
  | .unterminatedString => "Unterminated string starting at"
  | .controlCharacter => "Invalid control character at"
  | .escapeLetter => "Invalid \\escape"
  | .escapeDigits => "Invalid \\uXXXX escape"
  | .extraData => "Extra data"
  | .byteOrderMark => "Unexpected UTF-8 BOM (decode using utf-8-sig)"

def ReadFault.message : ReadFault → String
  | .syntaxAt problem line column offset =>
    s!"{problem.text}: line {line} column {column} (char {offset})"
  | .tooManyDigits digits =>
    s!"Exceeds the limit (4300 digits) for integer string conversion: value has {digits} digits; " ++
      "use sys.set_int_max_str_digits() to increase the limit"
  | .tooDeep inObject =>
    let kind := if inObject then "object" else "array"
    s!"maximum recursion depth exceeded while decoding a JSON {kind} from a unicode string"

/-- A fault before its place is known: how many characters were left. -/
inductive Stop where
  | missing (problem : Problem) (left : Nat)
  | tooManyDigits (digits : Nat)
  | tooDeep (inObject : Bool)

/-- How deep lists and objects may be nested inside the outermost one, as a rule. How
deep they may be just now hangs on what has been called, so reading and writing take it
as given. -/
def usualDepth : Nat := 969

/-- Drops the blanks of the grammar: space, tab and line ends. -/
def skipSpace (cs : List Char) : List Char :=
  cs.dropWhile fun c => c = ' ' || c = '\t' || c = '\n' || c = '\r'

def hexValue? (c : Char) : Option Nat :=
  let n := c.toNat
  if 0x30 ≤ n && n ≤ 0x39 then some (n - 0x30)
  else if 0x61 ≤ n && n ≤ 0x66 then some (n - 0x61 + 10)
  else if 0x41 ≤ n && n ≤ 0x46 then some (n - 0x41 + 10)
  else none

/-- The number that four hexadecimal digits write. -/
def fourHex? (a b c d : Char) : Option Nat := do
  let a ← hexValue? a
  let b ← hexValue? b
  let c ← hexValue? c
  let d ← hexValue? d
  return ((a * 16 + b) * 16 + c) * 16 + d

/-- The character that an escape letter stands for. -/
def escaped? : Char → Option Char
  | '"' => some '"'
  | '\\' => some '\\'
  | '/' => some '/'
  | 'b' => some '\x08'
  | 'f' => some '\x0c'
  | 'n' => some '\n'
  | 'r' => some '\r'
  | 't' => some '\t'
  | _ => none

/-- The character of a code unit; half of a surrogate pair has none and is
replaced. -/
def unitChar (n : Nat) : Char :=
  if 0xd800 ≤ n && n ≤ 0xdfff then '\ufffd' else Char.ofNat n

/-- Reads on from inside a string to behind its closing quote. `opening` is the
number of characters left at the opening quote; `done` is reversed. -/
def readString (opening : Nat) : Nat → List Char → List Char →
    Except Stop (List Char × List Char)
  | 0, cs, _ => .error (.missing .unterminatedString cs.length)
  | fuel + 1, cs, done =>
    match cs with
    | [] => .error (.missing .unterminatedString opening)
    | '"' :: rest => .ok (done.reverse, rest)
    | ['\\'] => .error (.missing .unterminatedString opening)
    | '\\' :: 'u' :: rest =>
      match rest with
      | a :: b :: c :: d :: e :: more =>
        match fourHex? a b c d with
        | none => .error (.missing .escapeDigits (rest.length + 1))
        | some high =>
          let after := e :: more
          if 0xd800 ≤ high && high ≤ 0xdbff then
            match after with
            | '\\' :: 'u' :: p :: q :: r :: s :: t :: tail =>
              match fourHex? p q r s with
              | some low =>
                if 0xdc00 ≤ low && low ≤ 0xdfff then
                  let c := Char.ofNat (0x10000 + (high - 0xd800) * 0x400 + (low - 0xdc00))
                  readString opening fuel (t :: tail) (c :: done)
                else readString opening fuel after ('\ufffd' :: done)
              | none => .error (.missing .escapeDigits (5 + (t :: tail).length))
            | _ => readString opening fuel after ('\ufffd' :: done)
          else readString opening fuel after (unitChar high :: done)
      | _ => .error (.missing .escapeDigits (rest.length + 1))
    | '\\' :: c :: rest =>
      match escaped? c with
      | some e => readString opening fuel rest (e :: done)
      | none => .error (.missing .escapeLetter (rest.length + 2))
    | c :: rest =>
      if c.toNat < 0x20 then .error (.missing .controlCharacter cs.length)
      else readString opening fuel rest (c :: done)

def isAsciiDigit (c : Char) : Bool := '0' ≤ c && c ≤ '9'

/-- The fraction behind a whole part: its digits and the rest. -/
def takeFraction : List Char → Option (List Char) × List Char
  | '.' :: cs =>
    let ds := cs.takeWhile isAsciiDigit
    if ds.isEmpty then (none, '.' :: cs) else (some ds, cs.dropWhile isAsciiDigit)
  | cs => (none, cs)

/-- The power of ten behind a number, if there is one. -/
def takePower (cs : List Char) : Option Int × List Char :=
  match cs with
  | c :: more =>
    if c = 'e' || c = 'E' then
      let (negative, more) := Numeral.takeSign more
      let ds := more.takeWhile isAsciiDigit
      if ds.isEmpty then (none, cs)
      else
        let n : Int := Numeral.ofDigits (Numeral.digitValues ds)
        (some (if negative then -n else n), more.dropWhile isAsciiDigit)
    else (none, cs)
  | [] => (none, cs)

/-- Reads a number. A fraction or a power of ten makes it a double. -/
def readNumber (cs : List Char) : Except Stop (Json × List Char) :=
  let (negative, body) := match cs with
    | '-' :: more => (true, more)
    | _ => (false, cs)
  let whole := match body with
    | '0' :: _ => ['0']
    | _ => body.takeWhile isAsciiDigit
  if whole.isEmpty then .error (.missing .value cs.length)
  else
    let rest := body.drop whole.length
    let (fraction, rest) := takeFraction rest
    let (power, rest) := takePower rest
    match fraction, power with
    | none, none =>
      match Numeral.natOf (Numeral.digitValues whole) with
      | .ok n => .ok (.int (if negative then -(n : Int) else n), rest)
      | .error (.tooLong digits) => .error (.tooManyDigits digits)
      | .error .malformed => .error (.missing .value cs.length)
    | _, _ =>
      let fraction := fraction.getD []
      let digits := Numeral.ofDigits (Numeral.digitValues (whole ++ fraction))
      let x := Double.ofDecimal negative digits (power.getD 0 - fraction.length)
      .ok (.float x, rest)

mutual

/-- Reads one value from the first character on; `depth` more lists and objects
may be opened inside one another. -/
def readValue : Nat → Nat → List Char → Except Stop (Json × List Char)
  | 0, _, cs => .error (.missing .value cs.length)
  | fuel + 1, depth, cs =>
    match cs with
    | '"' :: rest => do
      let (s, rest) ← readString cs.length (rest.length + 1) rest []
      return (.str (String.ofList s), rest)
    | '\x7b' :: rest =>
      match depth, skipSpace rest with
      | 0, _ => .error (.tooDeep true)
      | _, '\x7d' :: rest => .ok (.obj [], rest)
      | depth + 1, rest => readMembers fuel depth rest []
    | '[' :: rest =>
      match depth, skipSpace rest with
      | 0, _ => .error (.tooDeep false)
      | _, ']' :: rest => .ok (.arr [], rest)
      | depth + 1, rest => readItems fuel depth rest []
    | 'n' :: 'u' :: 'l' :: 'l' :: rest => .ok (.null, rest)
    | 't' :: 'r' :: 'u' :: 'e' :: rest => .ok (.bool true, rest)
    | 'f' :: 'a' :: 'l' :: 's' :: 'e' :: rest => .ok (.bool false, rest)
    | 'N' :: 'a' :: 'N' :: rest => .ok (.float .nan, rest)
    | 'I' :: 'n' :: 'f' :: 'i' :: 'n' :: 'i' :: 't' :: 'y' :: rest =>
      .ok (.float (.infinite false), rest)
    | '-' :: 'I' :: 'n' :: 'f' :: 'i' :: 'n' :: 'i' :: 't' :: 'y' :: rest =>
      .ok (.float (.infinite true), rest)
    | _ => readNumber cs

/-- Reads the members of an object from a name on; `done` is what came before. -/
def readMembers : Nat → Nat → List Char → List (String × Json) → Except Stop (Json × List Char)
  | 0, _, cs, _ => .error (.missing .value cs.length)
  | fuel + 1, depth, cs, done =>
    match cs with
    | '"' :: rest => do
      let (name, rest) ← readString cs.length (rest.length + 1) rest []
      match skipSpace rest with
      | ':' :: rest =>
        let (value, rest) ← readValue fuel depth (skipSpace rest)
        let done := setMember done (String.ofList name) value
        match skipSpace rest with
        | '\x7d' :: rest => return (.obj done, rest)
        | ',' :: rest => readMembers fuel depth (skipSpace rest) done
        | rest => throw (.missing .comma rest.length)
      | rest => throw (.missing .colon rest.length)
    | _ => .error (.missing .propertyName cs.length)

/-- Reads the items of a list from one of them on; `done` is reversed. -/
def readItems : Nat → Nat → List Char → List Json → Except Stop (Json × List Char)
  | 0, _, cs, _ => .error (.missing .value cs.length)
  | fuel + 1, depth, cs, done => do
    let (value, rest) ← readValue fuel depth cs
    match skipSpace rest with
    | ']' :: rest => return (.arr (value :: done).reverse, rest)
    | ',' :: rest => readItems fuel depth (skipSpace rest) (value :: done)
    | rest => throw (.missing .comma rest.length)

end

/-- The fault at the place where `left` of the characters were unread. -/
def faultAt (cs : List Char) (problem : Problem) (left : Nat) : ReadFault :=
  let offset := cs.length - left
  let before := cs.take offset
  let line := before.count '\n' + 1
  let column := (before.reverse.takeWhile (· ≠ '\n')).length + 1
  .syntaxAt problem line column offset

/-- Reads all characters as one value. Of two readers that call one another at least one
takes a character, so there is fuel for all of them. -/
def readChars (depth : Nat) (cs : List Char) : Except ReadFault Json :=
  match readValue (2 * cs.length + 1) (depth + 1) (skipSpace cs) with
  | .error (.missing problem left) => .error (faultAt cs problem left)
  | .error (.tooManyDigits digits) => .error (.tooManyDigits digits)
  | .error (.tooDeep inObject) => .error (.tooDeep inObject)
  | .ok (value, rest) =>
    match skipSpace rest with
    | [] => .ok value
    | rest => .error (faultAt cs .extraData rest.length)

/-- Reads a whole text as one value. -/
def read (depth : Nat) (s : String) : Except ReadFault Json :=
  match s.toList with
  | '\ufeff' :: rest => .error (faultAt ('\ufeff' :: rest) .byteOrderMark (rest.length + 1))
  | cs => readChars depth cs

end PullReview.Json
