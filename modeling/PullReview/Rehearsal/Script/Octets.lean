import PullReview.Text.Bytes

/-!
# Texts of bytes

Programs and scripts handle bytes and know nothing of characters beyond them.
Their texts are strings all the same, in which each character stands for the
byte of its number.
-/

namespace PullReview.Rehearsal.Octets

/-- Bytes as a text of bytes. -/
def ofBytes (bytes : ByteArray) : String :=
  String.ofList (bytes.toList.map fun b => Char.ofNat b.toNat)

/-- The text of bytes that a text is in UTF-8. -/
def ofText (s : String) : String := ofBytes s.toUTF8

def toBytes (s : String) : ByteArray :=
  s.foldl (fun bytes c => bytes.push (UInt8.ofNat c.toNat)) ByteArray.empty

/-- The text that bytes are in UTF-8, broken sequences replaced. -/
def toText (s : String) : String := Text.lenientText (toBytes s)

/-- The octal digits of a byte, three of them. -/
def octal (c : Char) : String :=
  let n := c.toNat
  String.ofList ([n / 64 % 8, n / 8 % 8, n % 8].map fun d => Char.ofNat (48 + d))

/-- Whether a byte can be seen when it is written. -/
def isVisible (c : Char) : Bool := 32 ≤ c.toNat && c.toNat < 127

/-- The escape of a byte that cannot be seen. -/
def escaped (c : Char) : String :=
  match c with
  | '\x07' => "\\a"
  | '\x08' => "\\b"
  | '\t' => "\\t"
  | '\n' => "\\n"
  | '\x0b' => "\\v"
  | '\x0c' => "\\f"
  | '\r' => "\\r"
  | c => "\\" ++ octal c

/-- Runs of bytes that can be seen and of bytes that cannot. -/
def runs (cs : List Char) : List (Bool × List Char) :=
  cs.foldr (fun c done =>
    match done with
    | (visible, run) :: rest =>
      if visible = isVisible c then (visible, c :: run) :: rest else (isVisible c, [c]) :: done
    | [] => [(isVisible c, [c])]) []

/-- A text as it is named in complaints: between quotes, with escapes inside. -/
def named (s : String) : String :=
  "'" ++ String.join (s.toList.map fun c =>
    if c = '\'' || c = '\\' then String.ofList ['\\', c]
    else if isVisible c then String.singleton c
    else escaped c) ++ "'"

/-- Whether a byte means itself between double quotes as well. -/
def isTame (c : Char) : Bool := c.isAlphanum || " '%+,-./:]_".toList.contains c

/-- A text between quotes, so that it can be read back. -/
def quoted (s : String) : String :=
  let cs := s.toList
  if cs.contains '\'' && cs.all isTame then "\"" ++ s ++ "\""
  else
    let plain (run : List Char) : String :=
      String.join (run.map fun c => if c = '\'' then "'\\''" else String.singleton c)
    let strange (run : List Char) : String := "'$'" ++ String.join (run.map escaped) ++ "'"
    let (text, isOpen) := (runs cs).foldl (fun (text, isOpen) (visible, run) =>
      if visible then (text ++ (if isOpen then "" else "'") ++ plain run, true)
      else (text ++ strange run, false)) ("'", true)
    if isOpen then text ++ "'" else text

/-- A text as it is if it can be told apart from what stands around, or else
between quotes. -/
def shown (s : String) : String :=
  let isPlain (c : Char) : Bool := c.isAlphanum || "%+,-./@]_\x7b\x7d#~".toList.contains c
  match s.toList with
  | [] => quoted s
  | [c] => if isPlain c && !"\x7b\x7d#~".toList.contains c then s else quoted s
  | c :: cs => if (c :: cs).all isPlain && c ≠ '#' && c ≠ '~' then s else quoted s

end PullReview.Rehearsal.Octets
