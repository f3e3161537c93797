/-!
# Reading packed bits

Compressed data is a row of bits, each byte from its least bit on. Decoding
takes bits from the front and appends bytes to what has been written; it stops
where the bits run out, and what has been written up to there stands.
-/

namespace PullReview.Compression

/-- What is wrong with compressed data. -/
inductive Problem where
  | header
  | method
  | window
  | dictionary
  | headerFlags
  | headerSum
  | blockType
  | storedLength
  | symbolCount
  | codeLengths
  | lengthRepeat
  | noBlockEnd
  | literalSet
  | distanceSet
  | literalCode
  | distanceCode
  | distanceTooFar
  | dataSum
  | dataLength
  deriving DecidableEq, Repr

def Problem.message : Problem → String
  | .dictionary => "Error 2 while decompressing data"
  | .header => told "incorrect header check"
  | .method => told "unknown compression method"
  | .window => told "invalid window size"
  | .headerFlags => told "unknown header flags set"
  | .headerSum => told "header crc mismatch"
  | .blockType => told "invalid block type"
  | .storedLength => told "invalid stored block lengths"
  | .symbolCount => told "too many length or distance symbols"
  | .codeLengths => told "invalid code lengths set"
  | .lengthRepeat => told "invalid bit length repeat"
  | .noBlockEnd => told "invalid code -- missing end-of-block"
  | .literalSet => told "invalid literal/lengths set"
  | .distanceSet => told "invalid distances set"
  | .literalCode => told "invalid literal/length code"
  | .distanceCode => told "invalid distance code"
  | .distanceTooFar => told "invalid distance too far back"
  | .dataSum => told "incorrect data check"
  | .dataLength => told "incorrect length check"
where
  told (reason : String) : String := "Error -3 while decompressing data: " ++ reason

/-- Why decoding stops before its end. -/
inductive Stop where
  | exhausted
  | malformed (problem : Problem)

/-- The bits to come, how many have been taken, and the bytes written. -/
structure State where
  bits : List Bool
  taken : Nat := 0
  out : Array UInt8 := #[]

/-- The bits of bytes. -/
def bitsOf (bytes : List UInt8) : List Bool :=
  bytes.flatMap fun b => (List.range 8).map fun i => b.toNat.testBit i

/-- Decoding; what has been written is kept where it stops. -/
abbrev Decoder := ExceptT Stop (StateM State)

namespace Decoder

def fail {α : Type} (problem : Problem) : Decoder α := throw (.malformed problem)

/-- Takes one bit. -/
def bit : Decoder Nat := do
  let s ← get
  match s.bits with
  | [] => throw .exhausted
  | b :: rest =>
    set { s with bits := rest, taken := s.taken + 1 }
    return b.toNat

/-- Takes a number of so many bits, its least bit first. Where they are not all
there, none is taken. -/
def number (count : Nat) : Decoder Nat := do
  let s ← get
  let front := s.bits.take count
  if front.length < count then throw .exhausted
  set { s with bits := s.bits.drop count, taken := s.taken + count }
  return front.foldr (fun b n => n * 2 + b.toNat) 0

/-- Goes on to the next byte. -/
def align : Decoder Unit := do
  let s ← get
  let rest := (8 - s.taken % 8) % 8
  set { s with bits := s.bits.drop rest, taken := s.taken + rest }

/-- Writes a byte. -/
def write (byte : Nat) : Decoder Unit :=
  modify fun s => { s with out := s.out.push byte.toUInt8 }

end Decoder

end PullReview.Compression
