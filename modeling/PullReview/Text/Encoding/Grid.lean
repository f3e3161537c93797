import PullReview.Text.Bytes

/-!
# Grids of characters

Sets of more characters than a byte can name put them into numbered rows. A
place without a character has the replacement character or lies behind the end
of its row.
-/

namespace PullReview.Text

/-- Rows of characters with their numbers. -/
abbrev CharGrid := List (Nat × String)

namespace CharGrid

/-- The character in a row at a place, counted from zero. -/
def char? (g : CharGrid) (row place : Nat) : Option Char :=
  ((g.lookup row).bind fun chars => chars.toList[place]?).filter (· ≠ replacement)

/-- The numbers of the characters between two bounds, in ascending order. -/
def numbers (g : CharGrid) (first last : Nat) : List Nat :=
  let all := g.flatMap fun (_, chars) => chars.toList.map Char.toNat
  (all.filter fun n => first ≤ n && n ≤ last).mergeSort

end CharGrid

/-- The number that is `n` places behind the start of all those that are not taken;
the taken ones ascend and `n` counts from the start. -/
def nthFree (taken : List Nat) (n : Nat) : Nat :=
  taken.foldl (fun n t => if t ≤ n then n + 1 else n) n

end PullReview.Text
