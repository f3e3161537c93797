import PullReview.Text.Encoding.BigFive
import PullReview.Text.Encoding.Gb
import PullReview.Text.Encoding.Jis
import PullReview.Text.Encoding.Ks

/-!
# Encodings of two bytes

Most characters of East Asian encodings take two bytes, those of ASCII one, and
a few take more. A byte that begins no character is replaced on its own, and
reading goes on behind it; bytes at the end that begin one but do not finish it
are replaced together. Some encodings switch between sets by escapes instead.
-/

namespace PullReview.Text

/-- What comes next in bytes. -/
inductive Taken where
  | char (c : Char) (size : Nat)
  /-- bytes that are no character -/
  | broken (size : Nat)
  /-- the start of a character that the text ends in -/
  | unfinished

/-- Reads characters one by one. -/
def textBy (next : List Nat → Taken) : Nat → List Nat → List Char
  | 0, _ | _, [] => []
  | fuel + 1, bs =>
    match next bs with
    | .char c size => c :: textBy next fuel (bs.drop size)
    | .broken size => replacement :: textBy next fuel (bs.drop size)
    | .unfinished => [replacement]

/-- The next character where two bytes make one unless one byte does; nothing inside
says that a byte begins none. -/
def takenInPairs (single : Nat → Option (Option Char)) (pair : Nat → Nat → Option Char) :
    List Nat → Taken
  | [] => .unfinished
  | a :: rest =>
    match single a, rest with
    | some (some c), _ => .char c 1
    | some none, _ => .broken 1
    | none, [] => .unfinished
    | none, b :: _ =>
      match pair a b with
      | some c => .char c 2
      | none => .broken 1

/-- The characters of ASCII, which take one byte. -/
def asciiSingle (b : Nat) : Option (Option Char) := if b < 0x80 then some (some (Char.ofNat b)) else none

/-- The character of two bytes above 160 that name a row and a place. -/
def inUpperRows (g : CharGrid) (a b : Nat) : Option Char :=
  if 0xa1 ≤ a && 0xa1 ≤ b then g.char? (a - 0xa0) (b - 0xa1) else none

/-- The place of a second byte that may be anything from 64 on but 127; 63 of them are
below that. -/
def placeFrom64 (b : Nat) : Option Nat :=
  if 0x40 ≤ b && b ≤ 0x7e then some (b - 0x40)
  else if 0x80 ≤ b && b ≤ 0xfe then some (b - 0x41)
  else none

/-! ## Japanese -/

/-- The row and the place that two bytes name of which the first is in one of two
stretches. -/
def shiftedPlace? (a b : Nat) : Option (Nat × Nat) :=
  if 0xfc < b then none
  else
    let lead := if 0xe0 ≤ a then a - 0xc1 else a - 0x81
    (placeFrom64 b).map fun place => (2 * lead + place / 94 + 1, place % 94)

/-- Half as wide as the others are the syllables of one byte. -/
def narrowSyllable? (b : Nat) : Option Char :=
  if 0xa1 ≤ b && b ≤ 0xdf then some (Char.ofNat (0xff61 + (b - 0xa1))) else none

def shiftJisSingle (b : Nat) : Option (Option Char) :=
  if b < 0x80 then some (some (Char.ofNat b))
  else match narrowSyllable? b with
    | some c => some (some c)
    | none => if b = 0x80 || b = 0xa0 || 0xeb ≤ b then some none else none

def shiftJis : List Nat → Taken :=
  takenInPairs shiftJisSingle fun a b =>
    (shiftedPlace? a b).bind fun (row, place) => jisx0208.char? row place

/-- Places of the main rows that have other characters with some makers. -/
def japaneseChanges : List ((Nat × Nat) × Char) := [((1, 32), '～'), ((1, 33), '∥'), ((1, 60), '－'),
  ((1, 80), '￠'), ((1, 81), '￡'), ((2, 43), '￢')]

/-- The same with the rows that makers have added and rows for private use. -/
def codePage932 : List Nat → Taken :=
  let single (b : Nat) : Option (Option Char) :=
    if b ≤ 0x80 then some (some (Char.ofNat b))
    else match narrowSyllable? b with
      | some c => some (some c)
      | none =>
        if b = 0xa0 then some (some '\uf8f0')
        else if 0xfd ≤ b then some (some (Char.ofNat (0xf8f1 + (b - 0xfd)))) else none
  takenInPairs single fun a b =>
    (shiftedPlace? a b).bind fun (row, place) =>
      if 95 ≤ row && row ≤ 114 then some (Char.ofNat (0xe000 + (row - 95) * 94 + place))
      else ((japaneseChanges.lookup (row, place)).orElse fun _ => jisx0208.char? row place).orElse
        fun _ => japaneseExtension.char? row place

def eucJp (bs : List Nat) : Taken :=
  match bs with
  | [0x8f] | [0x8f, _] => .unfinished
  | 0x8f :: a :: b :: _ =>
    match inUpperRows jisx0212 a b with
    | some c => .char c 3
    | none => .broken 1
  | bs => takenInPairs asciiSingle (fun a b =>
      if a = 0x8e then narrowSyllable? b else inUpperRows jisx0208 a b) bs

/-! ## Chinese -/

def eucCn : List Nat → Taken := takenInPairs asciiSingle (inUpperRows gb2312)

/-- Characters at the end of the ideographs that an extension adds. -/
def gbkLast : String :=
  "\uf92c\uf979\uf995\uf9e7\uf9f1\ufa0c\ufa0d\ufa0e\ufa0f\ufa11\ufa13\ufa14\ufa18" ++
    "\ufa1f\ufa20\ufa21\ufa23\ufa24\ufa27\ufa28\ufa29"

/-- The ideographs that an extension adds below and beside the rows of the standard,
where those of the standard are `taken`. -/
def gbkIdeograph? (taken : List Nat) (a b : Nat) : Option Char := do
  let place ← placeFrom64 b
  let index ←
    if 0x81 ≤ a && a ≤ 0xa0 then some ((a - 0x81) * 190 + place)
    else if 0xaa ≤ a && a ≤ 0xfe && place < 96 then some (32 * 190 + (a - 0xaa) * 96 + place)
    else none
  let n := nthFree taken (0x4e00 + index)
  if n ≤ 0x9fa5 then return Char.ofNat n else gbkLast.toList[n - 0x9fa6]?

/-- The pairs of the extension. -/
def gbkPair (taken : List Nat) (a b : Nat) : Option Char :=
  if a = 0xa1 && b = 0xa4 then some '·'
  else if a = 0xa1 && b = 0xaa then some '—'
  else ((inUpperRows gb2312 a b).orElse fun _ =>
      if 0x40 ≤ b then gbkSymbols.char? a (b - 0x40) else none).orElse
    fun _ => gbkIdeograph? taken a b

def gbk : List Nat → Taken :=
  let taken := gb2312.numbers 0x4e00 0x9fa5
  takenInPairs asciiSingle (gbkPair taken)

def big5Pair (a b : Nat) : Option Char :=
  if 0x40 ≤ b && b ≤ 0x7e then big5.char? a (b - 0x40)
  else if 0xa1 ≤ b then big5.char? a (b - 0xa1 + 63)
  else none

def bigFive : List Nat → Taken := takenInPairs asciiSingle big5Pair

/-- Places that have other characters with some makers. -/
def chineseChanges : List ((Nat × Nat) × Char) := [((0xa1, 0x45), '‧'), ((0xa1, 0x4e), '﹑'),
  ((0xa1, 0xc2), '¯'), ((0xa1, 0xe3), '～'), ((0xa1, 0xf2), '⊕'), ((0xa1, 0xf3), '⊙'),
  ((0xa2, 0x41), '∕'), ((0xa2, 0x42), '﹨'), ((0xa2, 0x44), '￥'), ((0xa2, 0x46), '￠'),
  ((0xa2, 0x47), '￡'), ((0xa3, 0xe1), '€')]

/-- The characters from a place on that makers have added at the end. -/
def chineseEnd : String := "碁銹裏墻恒粧嫺╔╦╗╠╬╣╚╩╝╒╤╕╞╪╡╘╧╛╓╥╖╟╫╢╙╨╜║═╭╮╰╯▓"

def codePage950 : List Nat → Taken :=
  takenInPairs asciiSingle fun a b =>
    ((chineseChanges.lookup (a, b)).orElse fun _ =>
      if a = 0xf9 && 0xd6 ≤ b then chineseEnd.toList[b - 0xd6]? else none).orElse fun _ => big5Pair a b

/-! ## Korean -/

/-- The three letters of a syllable that is written letter by letter. -/
def spelledSyllable? (first middle last : Nat) : Option Char := do
  let firsts := [0xa1, 0xa2, 0xa4, 0xa7, 0xa8, 0xa9, 0xb1, 0xb2, 0xb3, 0xb5, 0xb6, 0xb7, 0xb8, 0xb9,
    0xba, 0xbb, 0xbc, 0xbd, 0xbe]
  let notLast := [0xa8, 0xb3, 0xb9]
  let lasts := 0xd4 :: ((List.range 30).map (· + 0xa1)).filter (!notLast.contains ·)
  let f ← firsts.findIdx? (· = first)
  let m ← if 0xbf ≤ middle && middle ≤ 0xd3 then some (middle - 0xbf) else none
  let l ← lasts.findIdx? (· = last)
  return Char.ofNat (0xac00 + (f * 21 + m) * 28 + l)

def eucKr (bs : List Nat) : Taken :=
  match bs with
  | 0xa4 :: 0xd4 :: rest =>
    match rest with
    | x :: first :: y :: middle :: z :: last :: _ =>
      if x = 0xa4 && y = 0xa4 && z = 0xa4 then
        match spelledSyllable? first middle last with
        | some c => .char c 8
        | none => .broken 1
      else .broken 1
    | _ => .unfinished
  | bs => takenInPairs asciiSingle (inUpperRows ksx1001) bs

/-- The syllables that an extension adds, where those of the standard are `taken`. -/
def addedSyllable? (taken : List Nat) (a b : Nat) : Option Char := do
  let place ←
    if 0x41 ≤ b && b ≤ 0x5a then some (b - 0x41)
    else if 0x61 ≤ b && b ≤ 0x7a then some (b - 0x61 + 26)
    else if 0x81 ≤ b && b ≤ 0xfe then some (b - 0x81 + 52)
    else none
  let index ←
    if 0x81 ≤ a && a ≤ 0xa0 then some ((a - 0x81) * 178 + place)
    else if 0xa1 ≤ a && a ≤ 0xc6 && place < 84 then some (32 * 178 + (a - 0xa1) * 84 + place)
    else none
  let n := nthFree taken (0xac00 + index)
  if n ≤ 0xd7a3 then some (Char.ofNat n) else none

def codePage949 : List Nat → Taken :=
  let taken := ksx1001.numbers 0xac00 0xd7a3
  takenInPairs asciiSingle fun a b =>
    if a = 0xa4 && b = 0xd4 then some '\u3164'
    else (inUpperRows ksx1001 a b).orElse fun _ => addedSyllable? taken a b

/-! ## By name -/

/-- How the bytes of an encoding are read, by its usual name. -/
def doubleByte? (name : String) : Option (List Nat → Taken) :=
  match name with
  | "shift_jis" => some shiftJis
  | "cp932" => some codePage932
  | "euc_jp" => some eucJp
  | "gb2312" => some eucCn
  | "gbk" => some gbk
  | "big5" => some bigFive
  | "cp950" => some codePage950
  | "euc_kr" => some eucKr
  | "cp949" => some codePage949
  | _ => none

end PullReview.Text
