/-!
# Blanks and lines

Trimming removes blank characters from the ends of a text. Two ways of reading
lines stand side by side. `unixLines` knows line feeds alone, after each carriage
return in front of a line feed has been dropped; it keeps a last empty line.
`separatedLines` ends a line at any of the Unicode line separators and has no
line after the last one.
-/

namespace PullReview.Text

/-!
## Blank characters and trimming

The blank characters are the Unicode white space together with the four
information separators `U+001C`–`U+001F`. Trimming removes them from the ends
of a text and never from its middle.
-/

/-- Blank characters: Unicode white space and the information separators. -/
def isBlank (c : Char) : Bool :=
  let n := c.toNat
  (0x09 ≤ n && n ≤ 0x0d) || (0x1c ≤ n && n ≤ 0x20) || n == 0x85 || n == 0xa0 || n == 0x1680 ||
    (0x2000 ≤ n && n ≤ 0x200a) || n == 0x2028 || n == 0x2029 || n == 0x202f || n == 0x205f ||
    n == 0x3000

/-- The characters without the blanks in front. -/
def trimStart (cs : List Char) : List Char := cs.dropWhile isBlank

/-- The characters without the blanks behind. -/
def trimEnd (cs : List Char) : List Char := (cs.reverse.dropWhile isBlank).reverse

/-- The characters without the blanks at both ends. -/
def trim (cs : List Char) : List Char := trimEnd (trimStart cs)

/-- The text without the blanks at both ends. -/
def trimmed (s : String) : String := String.ofList (trim s.toList)

/-- No character of the text stands out from the blanks. -/
def allBlank (cs : List Char) : Bool := cs.all isBlank

/-! ## Lines -/

/-- Cuts at every `sep`; a text with `n` separators has `n + 1` pieces. -/
def splitAtEach (sep : Char) (cs : List Char) : List (List Char) :=
  cs.foldr (fun c pieces =>
    if c = sep then [] :: pieces
    else match pieces with
      | [] => [[c]]
      | piece :: rest => (c :: piece) :: rest) [[]]

/-- Cuts at the last of a character: what is in front, if it is there, and the
rest. -/
def cutAtLast (sep : Char) (cs : List Char) : Option (List Char) × List Char :=
  let rest := (cs.reverse.takeWhile (· ≠ sep)).reverse
  if rest.length = cs.length then (none, cs)
  else (some (cs.take (cs.length - rest.length - 1)), rest)

/-- Drops one carriage return from the end of a line. -/
def dropReturn (line : List Char) : List Char :=
  if line.getLast? = some '\r' then line.dropLast else line

/-- The lines between line feeds; a carriage return just before a line feed
belongs to the line end, one before the end of the text does not. -/
def unixLines (cs : List Char) : List (List Char) :=
  let pieces := splitAtEach '\n' cs
  pieces.dropLast.map dropReturn ++ pieces.getLast?.toList

/-- The characters that end a line on their own. -/
def isLineSeparator (c : Char) : Bool :=
  let n := c.toNat
  (0x0a ≤ n && n ≤ 0x0d) || (0x1c ≤ n && n ≤ 0x1e) || n == 0x85 || n == 0x2028 || n == 0x2029

/-- Reads lines with the open line and the finished lines held in reverse. -/
def separatedLinesFrom : List Char → List Char → List (List Char) → List (List Char)
  | [], [], done => done.reverse
  | [], line, done => (line.reverse :: done).reverse
  | '\r' :: '\n' :: cs, line, done => separatedLinesFrom cs [] (line.reverse :: done)
  | c :: cs, line, done =>
    if isLineSeparator c then separatedLinesFrom cs [] (line.reverse :: done)
    else separatedLinesFrom cs (c :: line) done

/-- The lines of a text under every Unicode line separator; the pair carriage
return and line feed ends one line. -/
def separatedLines (cs : List Char) : List (List Char) := separatedLinesFrom cs [] []

/-- Joins the texts with `sep` between neighbours. -/
def join (sep : String) (parts : List String) : String := sep.intercalate parts

end PullReview.Text
