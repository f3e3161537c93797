import PullReview.Fault
import PullReview.Text.Encoding.Utf8
import PullReview.Text.Encoding.Wide

/-!
# JSON from bytes

JSON text comes in UTF-8, UTF-16 or UTF-32; which of them shows in a mark at
its start, or else in where its first bytes are zero.
-/

namespace PullReview.Json

open Text

/-- The characters of JSON bytes. -/
def charsOfBytes (bs : List Nat) : Except BrokenBytes (List Char) :=
  let in16 (order : ByteOrder) (place : Nat) (bs : List Nat) :=
    Piece.strict (pieces16 true order place bs)
  let in32 (order : ByteOrder) (place : Nat) (bs : List Nat) :=
    Piece.strict (pieces32 true order place bs)
  match mark32? bs, mark16? bs with
  | some (order, rest), _ => in32 order 4 rest
  | none, some (order, rest) => in16 order 2 rest
  | none, none =>
    match bs with
    | 0xef :: 0xbb :: 0xbf :: rest => strictFrom rest.length 0 rest []
    | 0 :: 0 :: _ :: _ :: _ => in32 .big 0 bs
    | 0 :: _ :: _ :: _ :: _ => in16 .big 0 bs
    | _ :: 0 :: 0 :: 0 :: _ => in32 .little 0 bs
    | _ :: 0 :: _ :: _ :: _ => in16 .little 0 bs
    | [0, _] => in16 .big 0 bs
    | [_, 0] => in16 .little 0 bs
    | _ => strictFrom bs.length 0 bs []

/-- Reads bytes as one value. -/
def readBytes (depth : Nat) (bytes : ByteArray) : Except Fault Json := do
  let chars ← (charsOfBytes (bytes.toList.map (·.toNat))).mapError (.encoding ∘ .broken)
  (Json.readChars depth chars).mapError Fault.json

end PullReview.Json
