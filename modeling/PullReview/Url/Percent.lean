import PullReview.Json.Reader
import PullReview.Text.Bytes

/-!
# Percent encoding

Characters that may not stand in a part of an address are written as their
UTF-8 bytes, each as a percent sign with two hexadecimal digits.
-/

namespace PullReview.Url

/-- The bytes of a character in UTF-8. -/
def utf8Bytes (c : Char) : List Nat := ((String.singleton c).toUTF8.toList).map (·.toNat)

def hexDigit (n : Nat) : Char := Char.ofNat (if n < 10 then 0x30 + n else 0x41 + n - 10)

/-- A byte as a percent sign and two digits. -/
def escapeByte (b : Nat) : List Char := ['%', hexDigit (b / 16), hexDigit (b % 16)]

/-- The characters that may stay as they are; all others are escaped. -/
def escape (keep : Char → Bool) (cs : List Char) : List Char :=
  cs.flatMap fun c => if keep c then [c] else (utf8Bytes c).flatMap escapeByte

/-- Visible ASCII characters outside a list. -/
def visibleBut (taken : List Char) (c : Char) : Bool :=
  0x20 < c.toNat && c.toNat < 0x7f && !taken.contains c

/-- Replaces every escape by its byte. -/
def unescape : List Char → List Nat
  | [] => []
  | '%' :: a :: b :: cs =>
    match Json.hexValue? a, Json.hexValue? b with
    | some x, some y => (x * 16 + y) :: unescape cs
    | _, _ => 0x25 :: unescape (a :: b :: cs)
  | c :: cs => utf8Bytes c ++ unescape cs

/-- The text behind the escapes; bytes that are no text are replaced. -/
def unescapedText (cs : List Char) : List Char :=
  Text.lenientChars ⟨((unescape cs).map (·.toUInt8)).toArray⟩

end PullReview.Url
