import PullReview.Json.Reader

/-!
# Sets of characters

A set of characters is written as its ranges of code points in hexadecimal
digits, with blanks between them: `61-7a df`.
-/

namespace PullReview.Unicode

/-- A set of characters: the first and the last code point of each range. -/
structure CodeSet where
  ranges : List (Nat × Nat)

namespace CodeSet

/-- The number that hexadecimal digits write. -/
def number (cs : List Char) : Nat :=
  cs.foldl (fun n c => n * 16 + (Json.hexValue? c).getD 0) 0

/-- Reads the ranges of a set. -/
def ofText (text : String) : CodeSet where
  ranges := (text.splitOn " ").map fun range =>
    let first := range.toList.takeWhile (· ≠ '-')
    let last := (range.toList.dropWhile (· ≠ '-')).drop 1
    (number first, number (if last.isEmpty then first else last))

def contains (s : CodeSet) (c : Char) : Bool :=
  s.ranges.any fun (first, last) => first ≤ c.toNat && c.toNat ≤ last

end CodeSet

end PullReview.Unicode
