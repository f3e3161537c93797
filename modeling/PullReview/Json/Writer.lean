import PullReview.Json.Basic
import PullReview.Number.Numeral
import PullReview.Text.Quoted

/-!
# Writing JSON text

Values are written on one line, with a blank after each comma and colon, and in
ASCII alone: every other character of a string is escaped by its UTF-16 units.
Whole numbers with too many digits and values that are nested too deep have no text.
-/

namespace PullReview.Json

open Text

/-- A UTF-16 unit as an escape. -/
def unitEscape (n : Nat) : List Char := '\\' :: 'u' :: hexText 4 n

/-- One character inside a string. -/
def writeChar (c : Char) : List Char :=
  match c with
  | '"' => ['\\', '"']
  | '\\' => ['\\', '\\']
  | '\n' => ['\\', 'n']
  | '\r' => ['\\', 'r']
  | '\t' => ['\\', 't']
  | '\x0c' => ['\\', 'f']
  | '\x08' => ['\\', 'b']
  | _ =>
    let n := c.toNat
    if 0x20 ≤ n && n ≤ 0x7e then [c]
    else if n < 0x10000 then unitEscape n
    else
      let v := n - 0x10000
      unitEscape (0xd800 + v / 0x400) ++ unitEscape (0xdc00 + v % 0x400)

/-- A string between double quotes. -/
def writeString (s : String) : String :=
  String.ofList ('"' :: s.toList.flatMap writeChar ++ ['"'])

/-- A double in its shortest text; the values without one go by their names. -/
def writeDouble : Double → String
  | .nan => "NaN"
  | .infinite negative => if negative then "-Infinity" else "Infinity"
  | x => x.text

mutual

/-- The text of a value. -/
def write : Json → String
  | .null => "null"
  | .bool b => if b then "true" else "false"
  | .int n => toString n
  | .float x => writeDouble x
  | .str s => writeString s
  | .arr [] => "[]"
  | .arr (x :: xs) => "[" ++ write x ++ writeItems xs ++ "]"
  | .obj [] => "\x7b\x7d"
  | .obj ((name, x) :: xs) =>
    "\x7b" ++ writeString name ++ ": " ++ write x ++ writeMembers xs ++ "\x7d"

/-- The items after the first one of a list. -/
def writeItems : List Json → String
  | [] => ""
  | x :: xs => ", " ++ write x ++ writeItems xs

/-- The members after the first one of an object. -/
def writeMembers : List (String × Json) → String
  | [] => ""
  | (name, x) :: xs => ", " ++ writeString name ++ ": " ++ write x ++ writeMembers xs

end

/-! ## Values that are not written -/

/-- Why a value is not written. -/
inductive WriteFault where
  | tooManyDigits
  | tooDeep
  deriving DecidableEq, Repr

def WriteFault.message : WriteFault → String
  | .tooManyDigits =>
    "Exceeds the limit (4300 digits) for integer string conversion; " ++
      "use sys.set_int_max_str_digits() to increase the limit"
  | .tooDeep => "maximum recursion depth exceeded while encoding a JSON object"

mutual

/-- What writing a value comes upon first that it cannot write. There is room for
`depth` lists and objects in one another. -/
def flaw? : Nat → Json → Option WriteFault
  | _, .int n => if Numeral.isShort n then none else some .tooManyDigits
  | 0, .arr _ | 0, .obj _ => some .tooDeep
  | depth + 1, .arr items => flawAmong? depth items
  | depth + 1, .obj members => flawInside? depth members
  | _, _ => none

def flawAmong? : Nat → List Json → Option WriteFault
  | _, [] => none
  | depth, x :: xs => (flaw? depth x).or (flawAmong? depth xs)

def flawInside? : Nat → List (String × Json) → Option WriteFault
  | _, [] => none
  | depth, (_, x) :: xs => (flaw? depth x).or (flawInside? depth xs)

end

@[simp]
theorem flaw?_str (depth : Nat) (s : String) : flaw? depth (.str s) = none := by
  cases depth <;> rfl

@[simp]
theorem flaw?_short (depth : Nat) {n : Int} (h : Numeral.isShort n = true) :
    flaw? depth (.int n) = none := by
  cases depth <;> simp only [flaw?, h, if_true]

/-!
## Values inside messages

When a value that is not a text turns up where a message wants one, it is shown
in a literal form: truth values and the missing value by capitalised names,
texts inside lists and objects in quotes.
-/

mutual

/-- The literal form of a value; a text is quoted. -/
def literal : Json → String
  | .null => "None"
  | .bool b => if b then "True" else "False"
  | .int n => toString n
  | .float x => x.text
  | .str s => Text.quoted s
  | .arr [] => "[]"
  | .arr (x :: xs) => "[" ++ literal x ++ literalItems xs ++ "]"
  | .obj [] => "\x7b\x7d"
  | .obj ((name, x) :: xs) =>
    "\x7b" ++ Text.quoted name ++ ": " ++ literal x ++ literalMembers xs ++ "\x7d"

def literalItems : List Json → String
  | [] => ""
  | x :: xs => ", " ++ literal x ++ literalItems xs

def literalMembers : List (String × Json) → String
  | [] => ""
  | (name, x) :: xs => ", " ++ Text.quoted name ++ ": " ++ literal x ++ literalMembers xs

end

/-- A value in the middle of a sentence: a text as it is, anything else in its
literal form. -/
def display : Json → String
  | .str s => s
  | v => v.literal

/-- The name of a value's kind in a message. -/
def kindName : Json → String
  | .null => "NoneType"
  | .bool _ => "bool"
  | .int _ => "int"
  | .float _ => "float"
  | .str _ => "str"
  | .arr _ => "list"
  | .obj _ => "dict"

end PullReview.Json
