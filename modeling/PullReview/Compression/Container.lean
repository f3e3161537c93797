import PullReview.Compression.Inflate

/-!
# Containers of deflated data

Deflated data comes bare or in one of two containers, each with a head in front
and a checksum behind. What follows the end of a container is ignored, and data
that ends too early stands as far as it goes.
-/

namespace PullReview.Compression

/-! ## Checksums

The two sums that come with compressed data: the cyclic one of 32 bits, and the
pair of a plain sum and the sum of all plain sums, both modulo 65521.
-/

/-- One bit of the cyclic sum. -/
def cyclicStep (sum : UInt32) : UInt32 :=
  if sum &&& 1 = 1 then (sum >>> 1) ^^^ 0xedb88320 else sum >>> 1

/-- The cyclic sum of bytes. -/
def cyclicSum (bytes : List UInt8) : Nat :=
  let sum := bytes.foldl (fun sum b => Nat.repeat cyclicStep 8 (sum ^^^ b.toUInt32)) 0xffffffff
  (sum ^^^ 0xffffffff).toNat

/-- The paired sum of bytes. -/
def pairedSum (bytes : List UInt8) : Nat :=
  let (a, b) := bytes.foldl (fun ((a, b) : Nat × Nat) byte =>
    let a := (a + byte.toNat) % 65521
    (a, (b + a) % 65521)) (1, 0)
  b * 65536 + a

/-! ## Containers -/

/-- What stands around deflated data. -/
inductive Container where
  | bare
  | zlib
  | gzip
  deriving DecidableEq, Repr

namespace Decoder

/-- Reads a sum that should be this one. Its greatest byte comes first or last. -/
def checkSum (bigEndian : Bool) (expected : Nat) (problem : Problem) : Decoder Unit := do
  let sum ← number 32
  let turned :=
    sum % 256 * 16777216 + sum / 256 % 256 * 65536 + sum / 65536 % 256 * 256 + sum / 16777216
  if (if bigEndian then turned else sum) ≠ expected then fail problem

def zlibHead : Decoder Unit := do
  let head ← number 16
  let low := head % 256
  let high := head / 256
  if (low * 256 + high) % 31 ≠ 0 then fail .header
  if low % 16 ≠ 8 then fail .method
  if 7 < low / 16 then fail .window
  if high / 32 % 2 = 1 then
    let _ ← number 32
    fail .dictionary

/-- Takes bytes up to a zero. -/
def skipName : Nat → Decoder Unit
  | 0 => throw .exhausted
  | fuel + 1 => do if (← number 8) ≠ 0 then skipName fuel

/-- Takes so many bytes. -/
def skipBytes : Nat → Decoder Unit
  | 0 => return
  | count + 1 => do
    let _ ← number 8
    skipBytes count

/-- The head of the second container; `bytes` are those of all data. -/
def gzipHead (bytes : List UInt8) : Decoder Unit := do
  if (← number 16) ≠ 0x8b1f then fail .header
  let head ← number 16
  let has (flag : Nat) : Bool := head.testBit flag
  if head % 256 ≠ 8 then fail .method
  if 0x2000 ≤ head then fail .headerFlags
  skipBytes 6
  if has 10 then skipBytes (← number 16)
  if has 11 then skipName bytes.length
  if has 12 then skipName bytes.length
  if has 9 then
    let sum := cyclicSum (bytes.take ((← get).taken / 8))
    if (← number 16) ≠ sum % 65536 then fail .headerSum

/-- Decodes all of a container. -/
def contained (container : Container) (bytes : List UInt8) : Decoder Unit := do
  match container with
  | .bare => inflate
  | .zlib =>
    zlibHead
    inflate
    checkSum true (pairedSum (← get).out.toList) .dataSum
  | .gzip =>
    gzipHead bytes
    inflate
    let out := (← get).out
    checkSum false (cyclicSum out.toList) .dataSum
    checkSum false (out.size % 4294967296) .dataLength

end Decoder

/-- What deflated bytes stand for, as far as they go. -/
def inflated (container : Container) (bytes : ByteArray) : Except Problem ByteArray :=
  let all := bytes.toList
  match (Decoder.contained container all).run { bits := bitsOf all } with
  | (.error (.malformed problem), _) => .error problem
  | (_, s) => .ok ⟨s.out⟩

/-- What bytes stand for that should be in the zlib container, but may be bare. -/
def inflatedAnyway (bytes : ByteArray) : Except Problem ByteArray :=
  match inflated .zlib bytes with
  | .ok data => .ok data
  | .error _ => inflated .bare bytes

end PullReview.Compression
