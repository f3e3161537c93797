import PullReview.Text.Printable

/-!
# Quoted text

A quoted text stands between apostrophes, or between double quotes when it
holds apostrophes and no double quote. Backslashes, the enclosing quote and
every unprintable character are escaped, so a quoted text never breaks a line.
-/

namespace PullReview.Text

/-- A number in lower-case hexadecimal, padded with zeros to `width` digits. -/
def hexText (width n : Nat) : List Char :=
  let digits := Nat.toDigits 16 n
  List.replicate (width - digits.length) '0' ++ digits

/-- The quote character that encloses a text. -/
def quoteFor (cs : List Char) : Char :=
  if cs.contains '\'' && !cs.contains '"' then '"' else '\''

/-- One character inside quotes. -/
def quotedChar (quote c : Char) : List Char :=
  if c = quote || c = '\\' then ['\\', c]
  else if c = '\t' then ['\\', 't']
  else if c = '\n' then ['\\', 'n']
  else if c = '\r' then ['\\', 'r']
  else if isPrintable c then [c]
  else
    let n := c.toNat
    if n ≤ 0xff then '\\' :: 'x' :: hexText 2 n
    else if n ≤ 0xffff then '\\' :: 'u' :: hexText 4 n
    else '\\' :: 'U' :: hexText 8 n

/-- The text in quotes. -/
def quoted (s : String) : String :=
  let cs := s.toList
  let quote := quoteFor cs
  String.ofList (quote :: cs.flatMap (quotedChar quote) ++ [quote])

end PullReview.Text
