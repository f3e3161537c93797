import PullReview.Number.Decimals
import PullReview.Rehearsal.Script.Numeral
import PullReview.Rehearsal.Script.Octets

/-!
# Formatted output

A format is written out with its escapes resolved and its directives replaced
by arguments, again and again until the arguments are used up. The interpreter
of scripts and the tools on the host differ in the escapes and directives they
know and in what they complain about.
-/

namespace PullReview.Rehearsal.Format

open Double (zeros)

/-- Who writes. -/
inductive Dialect where
  | script
  | tool
  /-- the tool that only repeats its arguments -/
  | echoTool
  deriving DecidableEq

/-- What is written, and what is complained about on the way. -/
inductive Event where
  | text (text : String)
  | warning (text : String) (isFailure : Bool)

/-- Why writing ends early. -/
inductive Stop where
  | enough
  | mistake (text : String)

structure Progress where
  arguments : List String
  /-- the latest first -/
  events : List Event := []

abbrev Writing := ExceptT Stop (StateM Progress)

def put (text : String) : Writing Unit := modify fun p => { p with events := .text text :: p.events }

def warn (text : String) (isFailure : Bool) : Writing Unit :=
  modify fun p => { p with events := .warning text isFailure :: p.events }

/-- Takes the next argument. -/
def argument? : Writing (Option String) := do
  let p ← get
  set { p with arguments := p.arguments.tail }
  return p.arguments.head?

/-- Takes the next argument; nothing is there for those that are missing. -/
def argument : Writing String := return (← argument?).getD ""

def isOctal (c : Char) : Bool := '0' ≤ c && c ≤ '7'

def isHex (c : Char) : Bool := (Numeral.digit? 16 c).isSome

def byte (n : Nat) : String := String.singleton (Char.ofNat (n % 256))

/-- Letters that stand for a byte behind a backslash. -/
def letters : List (Char × Char) := [('a', '\x07'), ('b', '\x08'), ('e', '\x1b'), ('f', '\x0c'),
  ('n', '\n'), ('r', '\r'), ('t', '\t'), ('v', '\x0b'), ('\\', '\\')]

/-- A number in upper case hexadecimal digits, so many at least. -/
def hexText (width n : Nat) : String :=
  let digits := (String.ofList (Nat.toDigits 16 n)).toUpper
  zeros (width - digits.length) ++ digits

/-- The text of a character given by its number; only those of one byte can be
written as such. -/
def universal (mark : Char) (width : Nat) (cs : List Char) : Except Stop (String × List Char) :=
  let digits := (cs.take width).takeWhile isHex
  let n := Numeral.ofDigits 16 digits
  if digits.length < width then .error (.mistake "missing hexadecimal number in escape")
  else if 0xd800 ≤ n && n ≤ 0xdfff then
    .error (.mistake ("invalid universal character name \\" ++ String.singleton mark ++
      (hexText width n).toLower))
  else .ok (if n < 128 then byte n else if n < 0x10000 then "\\u" ++ hexText 4 n
    else "\\U" ++ hexText 8 n, cs.drop width)

/-- The text of the escape behind a backslash, and what follows it. -/
def escape (d : Dialect) (inArgument : Bool) (cs : List Char) :
    Except Stop (String × List Char) :=
  match cs with
  | [] => .ok ("\\", [])
  | c :: rest =>
    let unknown : Except Stop (String × List Char) :=
      .ok (if d = .script then ("\\", cs) else (String.ofList ['\\', c], rest))
    match letters.lookup c with
    | some meant => .ok (String.singleton meant, rest)
    | none =>
      if isOctal c then
        let digits := (if inArgument && c = '0' && rest.head?.any isOctal then rest else cs)
        let number := (digits.take 3).takeWhile isOctal
        .ok (byte (Numeral.ofDigits 8 number), digits.drop number.length)
      else if c = 'c' && (inArgument || d ≠ .script) then .error .enough
      else if c = '"' && d = .tool then .ok ("\"", rest)
      else if c = 'x' && d ≠ .script then
        let digits := (rest.take 2).takeWhile isHex
        if !digits.isEmpty then .ok (byte (Numeral.ofDigits 16 digits), rest.drop digits.length)
        else if d = .tool then .error (.mistake "missing hexadecimal number in escape")
        else unknown
      else if c = 'u' && d = .tool then universal c 4 rest
      else if c = 'U' && d = .tool then universal c 8 rest
      else unknown

/-- A text with its escapes resolved, up to where output ends, and why it does. -/
def unescaped (d : Dialect) : Nat → List Char → String × Option Stop
  | 0, _ | _, [] => ("", none)
  | fuel + 1, '\\' :: cs =>
    match escape d true cs with
    | .error stop => ("", some stop)
    | .ok (text, rest) =>
      let (more, stop) := unescaped d fuel rest
      (text ++ more, stop)
  | fuel + 1, c :: cs =>
    let (more, stop) := unescaped d fuel cs
    (String.singleton c ++ more, stop)

/-- A directive: its flags, its least width and its precision. -/
structure Directive where
  flags : List Char
  width : Nat := 0
  precision : Option Nat := none

def Directive.has (how : Directive) (flag : Char) : Bool := how.flags.contains flag

/-- Fills a text up with blanks to the width. -/
def Directive.fill (how : Directive) (text : String) : String :=
  let missing := String.ofList (List.replicate (how.width - text.length) ' ')
  if how.has '-' then text ++ missing else missing ++ text

/-- Fills a number up to the width, with zeros behind its sign if so asked. -/
def Directive.fillNumber (how : Directive) (zerosFit : Bool) (sign body : String) : String :=
  if how.has '0' && !how.has '-' && zerosFit then
    sign ++ zeros (how.width - sign.length - body.length) ++ body
  else how.fill (sign ++ body)

/-- The sign of a number. -/
def Directive.sign (how : Directive) (negative : Bool) : String :=
  if negative then "-" else if how.has '+' then "+" else if how.has ' ' then " " else ""

/-- Complains about a number that has not been read well. -/
def complain (d : Dialect) (text : String) (fault : String × String) : Writing Unit :=
  if d = .script then warn s!"{text}: {fault.1}" true
  else warn (Octets.named text ++ ": " ++ fault.2) true

/-- Takes an argument for a whole number. -/
def wholeNumber (d : Dialect) (signed : Bool) : Writing Int := do
  let text ← argument
  let ofQuoted (c : Char) (more : List Char) : Writing Int := do
    if d ≠ .script && !more.isEmpty then
      warn (s!"warning: {String.ofList more}: " ++
        "character(s) following character constant have been ignored") false
    return c.toNat
  match text.toList with
  | '\'' :: c :: more | '"' :: c :: more => ofQuoted c more
  | cs =>
    if d = .script && (cs = ['\''] || cs = ['"']) then return 0
    let n := Numeral.read 0 cs
    let limit : Int := 18446744073709551616
    let fits := if signed then n.fits else n.exact.natAbs < limit.toNat
    if !n.rest.isEmpty then
      complain d text (if n.found then ("not completely converted", "value not completely converted")
        else ("expected numeric value", "expected a numeric value"))
    else if !fits then
      complain d text ("Numerical result out of range", "Numerical result out of range")
    return if signed then n.value else if fits then n.exact % limit else limit - 1

/-- The text of a whole number that is not negative, in a base. -/
def wholeText (how : Directive) (base n : Nat) : String :=
  let digits := if n = 0 && how.precision = some 0 then "" else String.ofList (Nat.toDigits base n)
  zeros (how.precision.getD 0 - digits.length) ++ digits

/-- What an argument for a fraction says. -/
inductive Quantity where
  | fraction (num den : Nat)
  | infinite
  | undefined

/-- Reads an unsigned fraction. -/
def quantity (cs : List Char) : Option (Quantity × List Char) :=
  let lower := cs.map Char.toLower
  if "infinity".toList.isPrefixOf lower then some (.infinite, cs.drop 8)
  else if "inf".toList.isPrefixOf lower then some (.infinite, cs.drop 3)
  else if "nan".toList.isPrefixOf lower then some (.undefined, cs.drop 3)
  else
    let whole := cs.takeWhile Char.isDigit
    let (places, rest) := match cs.drop whole.length with
      | '.' :: more => (more.takeWhile Char.isDigit, more.dropWhile Char.isDigit)
      | rest => ([], rest)
    if whole.isEmpty && places.isEmpty then none
    else
      let (power, rest) : Int × List Char := match rest with
        | e :: more =>
          let n := Numeral.read 10 more
          if e.toLower = 'e' && n.found && !more.head?.any Numeral.isBlank then
            (if n.exact.natAbs < 5000 then n.exact else if n.exact < 0 then -5000 else 5000, n.rest)
          else (0, rest)
        | [] => (0, [])
      let (num, den) := Decimals.ofDecimal (Numeral.ofDigits 10 (whole ++ places))
        (power - places.length)
      some (.fraction num den, rest)

/-- Takes an argument for a fraction, which may be negative. -/
def fraction (d : Dialect) : Writing (Bool × Quantity) := do
  let text ← argument
  match text.toList with
  | '\'' :: c :: _ | '"' :: c :: _ => return (false, .fraction c.toNat 1)
  | [] => return (false, .fraction 0 1)
  | cs =>
    let cs := cs.dropWhile Numeral.isBlank
    let (negative, cs) := match cs with
      | '-' :: rest => (true, rest)
      | '+' :: rest => (false, rest)
      | cs => (false, cs)
    match quantity cs with
    | none =>
      complain d text ("expected numeric value", "expected a numeric value")
      return (false, .fraction 0 1)
    | some (q, rest) =>
      if !rest.isEmpty then
        complain d text ("not completely converted", "value not completely converted")
      match q with
      | .fraction num den =>
        let (num, den) := Decimals.rounded (if d = .script then 53 else 64) num den
        if d = .script && den * Nat.pow 2 1024 ≤ num then
          complain d text ("Numerical result out of range", "Numerical result out of range")
          return (negative, .infinite)
        return (negative, .fraction num den)
      | q => return (negative, q)

/-- The text of a fraction. -/
def fractionText (how : Directive) (kind : Char) : Quantity → String
  | .infinite => "inf"
  | .undefined => "nan"
  | .fraction num den =>
    let precision := how.precision.getD 6
    match kind with
    | 'e' => Decimals.scientific precision (how.has '#') num den
    | 'g' => Decimals.general precision (how.has '#') num den
    | _ => Decimals.fixed precision (how.has '#') num den

/-- Takes an argument and writes it by a directive. -/
def written (d : Dialect) (how : Directive) (kind : Char) : Writing Unit := do
  let cut (text : String) : String := match how.precision with
    | some p => String.ofList (text.toList.take p)
    | none => text
  let unsigned (base : Nat) (mark : String) : Writing String := do
    let n := (← wholeNumber d false).toNat
    let body := wholeText how base n
    let body := if how.has '#' && base = 8 && body.toList.head? ≠ some '0' then "0" ++ body else body
    let mark := if how.has '#' && n ≠ 0 then mark else ""
    return how.fillNumber how.precision.isNone mark body
  match kind with
  | 's' => put (how.fill (cut (← argument)))
  | 'q' => put (how.fill (cut (Octets.shown (← argument))))
  | 'b' =>
    let text ← argument
    let (text, stop) := unescaped d (text.length + 1) text.toList
    put (how.fill (cut text))
    match stop with
    | some stop => throw stop
    | none => pure ()
  | 'c' => put (how.fill (String.singleton ((← argument).toList.headD '\x00')))
  | 'o' => put (← unsigned 8 "")
  | 'u' => put (← unsigned 10 "")
  | 'x' => put (← unsigned 16 "0x")
  | 'X' => put (← unsigned 16 "0x").toUpper
  | 'd' | 'i' =>
    let n ← wholeNumber d true
    put (how.fillNumber how.precision.isNone (how.sign (n < 0)) (wholeText how 10 n.natAbs))
  | kind =>
    let (negative, q) ← fraction d
    let zerosFit := match q with
      | .fraction .. => true
      | _ => false
    let text := how.fillNumber zerosFit (how.sign negative) (fractionText how kind.toLower q)
    put (if kind.isUpper then text.toUpper else text)

/-- Whether a directive of a kind makes sense with its flags. -/
def isKnown (d : Dialect) (how : Directive) (kind : Char) (isBare : Bool) : Bool :=
  let kinds := "bcdieEfFgGosuxX".toList ++ if d = .script then [] else ['q']
  let without (flag : Char) (refused : String) : Bool :=
    !how.has flag || !refused.toList.contains kind
  kinds.contains kind && (d = .script ||
    ((kind ≠ 'b' && kind ≠ 'q') || isBare) && without '\'' "ceEosxX" && without '+' "cosuxX" &&
      without ' ' "cosuxX" && without '#' "cdisu" && without '0' "cs" &&
      (kind ≠ 'c' || how.precision.isNone))

/-- Reads a width or precision: digits, or a star for an argument. -/
def measure (d : Dialect) (cs : List Char) : Writing (Int × List Char) := do
  match cs with
  | '*' :: rest => return (← wholeNumber d true, rest)
  | cs =>
    let digits := cs.takeWhile Char.isDigit
    return (Numeral.ofDigits 10 digits, cs.drop digits.length)

/-- Writes by the directive behind a percent sign, and tells what follows it. -/
def directive (d : Dialect) (cs : List Char) : Writing (List Char) := do
  let isFlag (c : Char) : Bool := "-0+ #".toList.contains c || (c = '\'' && d ≠ .script)
  let flags := cs.takeWhile isFlag
  let (width, rest) ← measure d (cs.drop flags.length)
  let flags := if width < 0 then '-' :: flags else flags
  let (precision, rest) ← match rest with
    | '.' :: more => do
      let (n, rest) ← measure d more
      pure (if n < 0 then none else some n.toNat, rest)
    | rest => pure (none, rest)
  let rest := if d = .script then rest else rest.dropWhile "hlLjtz".toList.contains
  let source := "%" ++ String.ofList (cs.take (cs.length - rest.length + 1))
  let refusal := if d = .script then "invalid directive" else "invalid conversion specification"
  match rest with
  | [] =>
    throw (.mistake (if d = .script then "missing format character" else s!"{source}: {refusal}"))
  | kind :: rest =>
    let how : Directive := ⟨flags, width.natAbs, precision⟩
    if isKnown d how kind (source.length = 2) then written d how kind
    else throw (.mistake s!"{source}: {refusal}")
    return rest

/-- One pass over a format. -/
def pass (d : Dialect) : Nat → List Char → Writing Unit
  | 0, _ | _, [] => return ()
  | fuel + 1, '\\' :: cs => do
    match escape d false cs with
    | .ok (text, rest) =>
      put text
      pass d fuel rest
    | .error stop => throw stop
  | fuel + 1, '%' :: '%' :: cs => do
    put "%"
    pass d fuel cs
  | fuel + 1, '%' :: cs => do
    let rest ← directive d cs
    pass d fuel rest
  | fuel + 1, c :: cs => do
    put (String.singleton c)
    pass d fuel cs

/-- Passes over a format until the arguments are used up, or are not used. -/
def passes (d : Dialect) (format : List Char) : Nat → Writing Unit
  | 0 => return ()
  | fuel + 1 => do
    let before := (← get).arguments
    pass d (format.length + 1) format
    match (← get).arguments with
    | [] => return ()
    | next :: rest =>
      if rest.length + 1 < before.length then passes d format fuel
      else if d ≠ .script then
        warn s!"warning: ignoring excess arguments, starting with {Octets.named next}" false

/-- What writing a format with its arguments comes to: what happens in its order,
and the mistake that ends it. -/
def output (d : Dialect) (format : String) (arguments : List String) :
    List Event × Option String :=
  let (result, p) := (passes d format.toList (arguments.length + 1)).run { arguments := arguments }
  (p.events.reverse, match result with
    | .error (.mistake text) => some text
    | _ => none)

end PullReview.Rehearsal.Format
