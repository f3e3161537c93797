import PullReview.Text.Encoding.Broken

/-!
# Escaped text

Bytes stand for the first 256 characters, and a backslash begins an escape that
may stand for any. There are two sets of escapes: the full one of string
literals, and one that has numbers of four and eight digits alone. An escape
that is broken becomes one replacement character.
-/

namespace PullReview.Text

/-- Which escapes count. -/
inductive EscapeSet where
  | full
  | numbers
  deriving DecidableEq, Repr

def hexDigit? (b : Nat) : Option Nat :=
  if 0x30 ≤ b && b ≤ 0x39 then some (b - 0x30)
  else if 0x61 ≤ b && b ≤ 0x66 then some (b - 0x61 + 10)
  else if 0x41 ≤ b && b ≤ 0x46 then some (b - 0x41 + 10)
  else none

def isOctalDigit (b : Nat) : Bool := 0x30 ≤ b && b ≤ 0x37

/-- A number of exactly `count` hexadecimal digits as a character, and the bytes
behind it; where a digit is missing, those behind the ones that are there. -/
def numberedChar (count : Nat) (bs : List Nat) : Char × List Nat :=
  let digits := (bs.take count).takeWhile fun b => (hexDigit? b).isSome
  let n := (digits.filterMap hexDigit?).foldl (fun n d => n * 16 + d) 0
  let whole := digits.length = count && n ≤ 0x10ffff
  (if whole then charOf n else replacement, bs.drop digits.length)

/-- The character of an escape letter. -/
def letterEscape? (b : Nat) : Option Char :=
  match Char.ofNat b with
  | '\\' => some '\\'
  | '\'' => some '\''
  | '"' => some '"'
  | 'a' => some '\x07'
  | 'b' => some '\x08'
  | 't' => some '\t'
  | 'n' => some '\n'
  | 'v' => some '\x0b'
  | 'f' => some '\x0c'
  | 'r' => some '\r'
  | _ => none

/-- What follows an escape of a character by its name, which is never read. -/
def afterName : List Nat → List Nat
  | 0x7b :: 0x7d :: rest => 0x7d :: rest
  | 0x7b :: rest => (rest.dropWhile (· ≠ 0x7d)).drop 1
  | rest => rest

/-- The characters that an escape stands for, from behind its backslash on, and
the bytes behind it. -/
def readEscape (set : EscapeSet) (bs : List Nat) : List Char × List Nat :=
  let one (result : Char × List Nat) : List Char × List Nat := ([result.1], result.2)
  match set, bs with
  | .full, [] => ([replacement], [])
  | .numbers, [] => (['\\'], [])
  | _, 0x75 :: rest => one (numberedChar 4 rest)
  | _, 0x55 :: rest => one (numberedChar 8 rest)
  | .numbers, b :: rest => (['\\', Char.ofNat b], rest)
  | .full, 0x78 :: rest => one (numberedChar 2 rest)
  | .full, 0x0a :: rest => ([], rest)
  | .full, 0x4e :: rest => ([replacement], afterName rest)
  | .full, b :: rest =>
    match letterEscape? b with
    | some c => ([c], rest)
    | none =>
      if isOctalDigit b then
        let digits := b :: (rest.take 2).takeWhile isOctalDigit
        ([Char.ofNat (digits.foldl (fun n d => n * 8 + (d - 0x30)) 0)],
          rest.drop (digits.length - 1))
      else (['\\', Char.ofNat b], rest)

/-- Reads on; `done` is reversed. -/
def unescapeFrom (set : EscapeSet) : Nat → List Nat → List Char → List Char
  | 0, _, done | _ + 1, [], done => done.reverse
  | fuel + 1, b :: rest, done =>
    if b = 0x5c then
      let (chars, rest) := readEscape set rest
      unescapeFrom set fuel rest (chars.reverse ++ done)
    else unescapeFrom set fuel rest (Char.ofNat b :: done)

/-- The text of escaped bytes. -/
def escapedText (set : EscapeSet) (bs : List Nat) : String :=
  String.ofList (unescapeFrom set bs.length bs [])

end PullReview.Text
