import PullReview.Compression.Bits

/-!
# Inflating

Deflated data is a row of blocks. A block holds bytes as they are, or symbols in
prefix codes that are fixed or come with the block: literal bytes, and lengths
that are followed by the distance from which so many bytes are repeated.
-/

namespace PullReview.Compression

/-! ## Prefix codes

A prefix code is given by the length of the code of each symbol, zero for a
symbol without one. Codes of one length are consecutive numbers in the order of
their symbols, and shorter codes come before longer ones.
-/

/-- The symbols of each length of code, from length one on. -/
structure PrefixCode where
  symbols : List (List Nat)

namespace PrefixCode

/-- The code of these lengths. It may leave codes unused only if `allowsGaps`
and no code is longer than one bit; it may have no symbol at all. -/
def ofLengths? (allowsGaps : Bool) (lengths : List Nat) : Option PrefixCode :=
  let ofLength (n : Nat) : List Nat := (lengths.zipIdx.filter (·.1 = n)).map (·.2)
  let longest := lengths.foldl max 0
  let symbols := (List.range longest).map fun i => ofLength (i + 1)
  let free := symbols.foldl (fun (free : Option Nat) (level : List Nat) => do
    let free ← free
    if 2 * free < level.length then none else some (2 * free - level.length)) (some 1)
  match free with
  | none => none
  | some free =>
    if longest = 0 || free = 0 || (allowsGaps && longest = 1) then some ⟨symbols⟩ else none

/-- Takes bits until they are a code. `code` are those taken, as a number, and
`first` is the least code of the present length. -/
def symbolFrom (code first : Nat) : List (List Nat) → Decoder (Option Nat)
  | [] => return none
  | level :: longer => do
    let code := code * 2 + (← Decoder.bit)
    let first := first * 2
    match level[code - first]? with
    | some symbol => return some symbol
    | none => symbolFrom code (first + level.length) longer

/-- Takes one symbol; none where the bits are no code. -/
def symbol (c : PrefixCode) : Decoder (Option Nat) :=
  match c.symbols with
  | [] => do
    let _ ← Decoder.bit
    return none
  | levels => symbolFrom 0 0 levels

end PrefixCode

/-! ## Blocks -/

/-- The codes of a block: literals and lengths, and distances. -/
structure BlockCodes where
  literals : PrefixCode
  distances : PrefixCode

/-- The codes that need not be sent. -/
def fixedCodes : Option BlockCodes := do
  let literals ← PrefixCode.ofLengths? true
    (List.replicate 144 8 ++ List.replicate 112 9 ++ List.replicate 24 7 ++ List.replicate 8 8)
  let distances ← PrefixCode.ofLengths? true (List.replicate 32 5)
  return ⟨literals, distances⟩

/-- The least length and the extra bits of the symbols from 257 on. -/
def lengthBases : List (Nat × Nat) := [
  (3, 0), (4, 0), (5, 0), (6, 0), (7, 0), (8, 0), (9, 0), (10, 0), (11, 1), (13, 1), (15, 1),
  (17, 1), (19, 2), (23, 2), (27, 2), (31, 2), (35, 3), (43, 3), (51, 3), (59, 3), (67, 4),
  (83, 4), (99, 4), (115, 4), (131, 5), (163, 5), (195, 5), (227, 5), (258, 0)]

/-- The least distance and the extra bits of the symbols of distances. -/
def distanceBases : List (Nat × Nat) := [
  (1, 0), (2, 0), (3, 0), (4, 0), (5, 1), (7, 1), (9, 2), (13, 2), (17, 3), (25, 3), (33, 4),
  (49, 4), (65, 5), (97, 5), (129, 6), (193, 6), (257, 7), (385, 7), (513, 8), (769, 8),
  (1025, 9), (1537, 9), (2049, 10), (3073, 10), (4097, 11), (6145, 11), (8193, 12), (12289, 12),
  (16385, 13), (24577, 13)]

/-- The order in which the lengths of the codes for code lengths are sent. -/
def lengthOrder : List Nat := [16, 17, 18, 0, 8, 7, 9, 6, 10, 5, 11, 4, 12, 3, 13, 2, 14, 1, 15]

/-- How far back a distance may reach. -/
def windowSize : Nat := 32768

namespace Decoder

/-- Writes `count` bytes again from `distance` back, one after the other. -/
def repeatBytes (distance : Nat) : Nat → Decoder Unit
  | 0 => return
  | count + 1 => do
    let s ← get
    write ((s.out.getD (s.out.size - distance) 0).toNat)
    repeatBytes distance count

/-- Copies bytes as they are, as many of them as are there. -/
def copyBytes : Nat → Decoder Unit
  | 0 => return
  | count + 1 => do
    write (← number 8)
    copyBytes count

/-- A length or distance: its base and the number in its extra bits. -/
def extended (bases : List (Nat × Nat)) (symbol : Nat) (problem : Problem) : Decoder Nat := do
  match bases[symbol]? with
  | none => fail problem
  | some (base, extra) => return base + (← number extra)

/-- Reads the symbols of a block up to its end. -/
def symbols (codes : BlockCodes) : Nat → Decoder Unit
  | 0 => throw .exhausted
  | fuel + 1 => do
    match ← codes.literals.symbol with
    | none => fail .literalCode
    | some 256 => return
    | some symbol =>
      if symbol < 256 then write symbol
      else
        let length ← extended lengthBases (symbol - 257) .literalCode
        match ← codes.distances.symbol with
        | none => fail .distanceCode
        | some symbol =>
          let distance ← extended distanceBases symbol .distanceCode
          if min (← get).out.size windowSize < distance then fail .distanceTooFar
          repeatBytes distance length
      symbols codes fuel

/-- Reads `count` lengths of codes; `done` is reversed. -/
def codeLengths (code : PrefixCode) (count : Nat) : Nat → List Nat → Decoder (List Nat)
  | 0, _ => throw .exhausted
  | fuel + 1, done => do
    if count ≤ done.length then return done.reverse
    let more (times length : Nat) : Decoder (List Nat) := do
      if count < done.length + times then fail .lengthRepeat
      codeLengths code count fuel (List.replicate times length ++ done)
    match (← code.symbol).getD 0 with
    | 16 =>
      let extra ← number 2
      match done with
      | [] => fail .lengthRepeat
      | last :: _ => more (3 + extra) last
    | 17 => more (3 + (← number 3)) 0
    | 18 => more (11 + (← number 7)) 0
    | length => more 1 length

/-- Reads the codes that come with a block. -/
def sentCodes : Decoder BlockCodes := do
  let head ← number 14
  let literals := head % 32 + 257
  let distances := head / 32 % 32 + 1
  let lengths := head / 1024 + 4
  if 286 < literals || 30 < distances then fail .symbolCount
  let sent ← (lengthOrder.take lengths).mapM fun symbol => do return (symbol, ← number 3)
  let ofSymbol (symbol : Nat) : Nat := (sent.lookup symbol).getD 0
  match PrefixCode.ofLengths? false ((List.range 19).map ofSymbol) with
  | none => fail .codeLengths
  | some code =>
    let all ← codeLengths code (literals + distances) (literals + distances + 1) []
    if all.getD 256 0 = 0 then fail .noBlockEnd
    match PrefixCode.ofLengths? true (all.take literals),
        PrefixCode.ofLengths? true (all.drop literals) with
    | none, _ => fail .literalSet
    | _, none => fail .distanceSet
    | some literals, some distances => return ⟨literals, distances⟩

/-- Reads one block of the kind that its head names. -/
def block (kind fuel : Nat) : Decoder Unit := do
  match kind with
  | 0 =>
    align
    let head ← number 32
    if head % 65536 + head / 65536 ≠ 65535 then fail .storedLength
    copyBytes (head % 65536)
  | 1 =>
    match fixedCodes with
    | some codes => symbols codes fuel
    | none => fail .literalSet
  | 2 => symbols (← sentCodes) fuel
  | _ => fail .blockType

/-- Reads blocks up to the last one, and on to the next byte. -/
def blocks : Nat → Decoder Unit
  | 0 => throw .exhausted
  | fuel + 1 => do
    let head ← number 3
    block (head / 2) (fuel + 1)
    if head % 2 = 1 then align else blocks fuel

/-- Inflates the bits to come. -/
def inflate : Decoder Unit := do blocks ((← get).bits.length + 1)

end Decoder

end PullReview.Compression
