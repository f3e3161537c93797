import PullReview.Text.Bytes
import PullReview.Text.Quoted

/-!
# Bytes that are no text

A decoder makes of bytes a row of pieces: characters, and stretches of bytes
that are none. Strict reading fails at the first broken stretch and tells where
and why; lenient reading puts one replacement character for each.
-/

namespace PullReview.Text

/-- A stretch of bytes that a decoder could not read: its first byte, its place
and its length. -/
structure BrokenBytes where
  encoding : String
  byte : Nat
  start : Nat
  size : Nat
  reason : String

def BrokenBytes.message (b : BrokenBytes) : String :=
  if b.size = 1 then
    s!"'{b.encoding}' codec can't decode byte 0x" ++ String.ofList (hexText 2 b.byte) ++
      s!" in position {b.start}: {b.reason}"
  else
    s!"'{b.encoding}' codec can't decode bytes in position " ++
      s!"{b.start}-{b.start + b.size - 1}: {b.reason}"

/-- What a decoder makes of some bytes. -/
inductive Piece where
  | char (c : Char)
  | broken (b : BrokenBytes)

namespace Piece

/-- The text of pieces, or the first broken one. -/
def strict : List Piece → Except BrokenBytes (List Char)
  | [] => .ok []
  | pieces => go pieces []
where
  go : List Piece → List Char → Except BrokenBytes (List Char)
    | [], done => .ok done.reverse
    | .char c :: rest, done => go rest (c :: done)
    | .broken b :: _, _ => .error b

/-- The text of pieces, a replacement character for each broken one. -/
def lenient (pieces : List Piece) : List Char :=
  pieces.map fun
    | .char c => c
    | .broken _ => replacement

end Piece

/-- A character by its number; half of a surrogate pair is replaced. -/
def charOf (n : Nat) : Char := if 0xd800 ≤ n && n ≤ 0xdfff then replacement else Char.ofNat n

end PullReview.Text
