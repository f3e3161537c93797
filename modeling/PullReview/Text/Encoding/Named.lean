import PullReview.Text.Encoding.ByteSet
import PullReview.Text.Encoding.Escape
import PullReview.Text.Encoding.Gb18030
import PullReview.Text.Encoding.Names
import PullReview.Text.Encoding.Switching
import PullReview.Text.Encoding.Wide
import PullReview.Text.Encoding.Utf8
import PullReview.Text.Punycode

/-!
# Text in a named encoding

The name of an encoding comes with the bytes. An unknown name means UTF-8.
Broken bytes are replaced, but some encodings cannot replace, ask for a mark
that is not there, or are no way from bytes to text at all.
-/

namespace PullReview.Text

/-- Why bytes are not read in an encoding. -/
inductive EncodingFault where
  | broken (bytes : BrokenBytes)
  /-- the mark of the byte order is missing from numbers of so many bits -/
  | noMark (bits : Nat)
  | cannotReplace
  | undefined
  /-- bytes are turned into bytes -/
  | notText
  /-- text is turned into text -/
  | notBytes

def EncodingFault.message : EncodingFault → String
  | .broken bytes => bytes.message
  | .noMark bits => s!"UTF-{bits} stream does not start with BOM"
  | .cannotReplace => "Unsupported error handling replace"
  | .undefined => "undefined encoding"
  | .notText => ""
  | .notBytes => "descriptor 'translate' for 'str' objects doesn't apply to a 'bytes' object"

/-- The text of bytes in UTF-16 or UTF-32 that begin with a mark; too few bytes
for a mark are broken. -/
def markedText (bits : Nat) (mark? : List Nat → Option (ByteOrder × List Nat))
    (pieces : ByteOrder → List Nat → List Piece) (bs : List Nat) : Except EncodingFault String :=
  match mark? bs with
  | some (order, rest) => .ok (String.ofList (Piece.lenient (pieces order rest)))
  | none =>
    if bs.isEmpty then .ok ""
    else if bs.length < bits / 8 then .ok (String.singleton replacement)
    else .error (.noMark bits)

/-- The text of a label in ASCII. The digits of the others have to be ASCII. -/
def labelText (bs : List Nat) : Except EncodingFault String :=
  let hasDash := bs.contains 0x2d
  let digits := (bs.reverse.takeWhile (· ≠ 0x2d)).reverse
  let broken := digits.takeWhile (· < 0x80)
  match digits.drop broken.length with
  | b :: _ =>
    .error (.broken ⟨"ascii", b, broken.length, 1, "ordinal not in range(128)"⟩)
  | [] =>
    let ascii (b : Nat) : Char := if b < 0x80 then Char.ofNat b else replacement
    let front := (bs.take (bs.length - digits.length - 1)).map ascii
    let label := if hasDash then front ++ '-' :: digits.map ascii else digits.map ascii
    .ok (String.ofList ((Punycode.decode .keep label).getD []))

/-- The text of bytes in a named encoding. -/
def lenientTextIn (name : String) (bytes : ByteArray) : Except EncodingFault String :=
  let bs := bytes.toList.map (·.toNat)
  let ofPieces (pieces : List Piece) : Except EncodingFault String :=
    .ok (String.ofList (Piece.lenient pieces))
  match usualName? name with
  | none | some "utf_8" => .ok (lenientText bytes)
  | some "utf_8_sig" =>
    match bs with
    | 0xef :: 0xbb :: 0xbf :: _ => .ok (lenientText (bytes.extract 3 bytes.size))
    | [0xef] | [0xef, 0xbb] => .ok ""
    | _ => .ok (lenientText bytes)
  | some "ascii" =>
    .ok (String.ofList (bs.map fun b => if b < 0x80 then Char.ofNat b else replacement))
  | some "latin_1" | some "iso8859_1" | some "charmap" => .ok (String.ofList (bs.map Char.ofNat))
  | some "utf_7" => .ok (utf7Text bs)
  | some "utf_16" => markedText 16 mark16? (fun order => pieces16 false order 2) bs
  | some "utf_16_le" => ofPieces (pieces16 false .little 0 bs)
  | some "utf_16_be" => ofPieces (pieces16 false .big 0 bs)
  | some "utf_32" => markedText 32 mark32? (fun order => pieces32 false order 4) bs
  | some "utf_32_le" => ofPieces (pieces32 false .little 0 bs)
  | some "utf_32_be" => ofPieces (pieces32 false .big 0 bs)
  | some "unicode_escape" => .ok (escapedText .full bs)
  | some "raw_unicode_escape" => .ok (escapedText .numbers bs)
  | some "punycode" => labelText bs
  | some "idna" => .error .cannotReplace
  | some "undefined" => .error .undefined
  | some "rot_13" => .error .notBytes
  | some "hz" => .ok (hzText bs)
  | some usual =>
    let next? := if usual = "gb18030" then some gb18030 else doubleByte? usual
    match ByteSet.ofName? usual, next?, switchedSets? usual with
    | some set, _, _ => .ok (set.text bs)
    | none, some next, _ => .ok (String.ofList (textBy next bs.length bs))
    | none, none, some sets => .ok (switchedText sets (usual = "iso2022_kr") bs)
    | none, none, none =>
      if usual.endsWith "_codec" then .error .notText else .ok (lenientText bytes)

end PullReview.Text
