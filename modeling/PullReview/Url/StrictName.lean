import PullReview.Unicode.CodeSet
import PullReview.Unicode.HostMapping
import PullReview.Url.Domain

/-!
# Strict domain names

A strict name is not brought into another form first: its labels hold letters,
digits, marks and single hyphens that already stand for themselves, and what
depends on its neighbours is only where they allow it. The name and its labels
have limits of length.
-/

namespace PullReview.Unicode

/-!
## Letters of strict names

Strict names hold letters, digits and marks that stand for themselves, and a
few other characters where their neighbours allow it.
-/

/-- The letters, digits and marks among the characters that stand for
themselves. -/
def nameLetters : CodeSet := .ofText <|
  "df-f6 f8-2c1 2c6-2d1 2ec 2ee 300-373 377-3f3 3f8-481 483-487 48b-559 560-588 591-5bd 5bf " ++
  "5c1-5c2 5c4-5c5 5c7-5f2 610-61a 620-63f 641-65f 66e-6d3 6d5-6dc 6df-6e8 6ea-6ef 6fa-6ff " ++
  "710-7f5 7fd 800-82d 840-85b 860-887 889-963 966-96f 971-9f1 9fc 9fe-a75 a81-aef af9-b6f " ++
  "b71 b82-bef c00-c6f c80-c83 c85-cf2 d00-d4e d54-d57 d5f-d6f d7a-df3 e01-e3a e40-e4e " ++
  "e50-e59 e81-ecd ed0-f00 f0b f18-f19 f20-f29 f35 f37 f39 f3e-f84 f86-fbc fc6 1000-1049 " ++
  "1050-109d 10d0-10fa 10fd-10ff 1200-135f 1380-138f 13a0-13f5 1401-166c 166f-169a 16a0-16ea " ++
  "16f1-1734 1740-17d3 17d7 17dc-17e9 1810-193b 1946-19d9 1a00-1a1b 1a20-1a99 1aa7 1ab0-1abd " ++
  "1abf-1b59 1b6b-1b73 1b80-1bf3 1c00-1c37 1c40-1c7d 1cd0-1cd2 1cd4-1ff6 214e 2184 2c30-2ce4 " ++
  "2cec-2cf3 2d00-2d67 2d7f-2dff 2e2f 3005-3007 302a-302d 303c 3041-309e 30a1-30fa 30fc-312f " ++
  "31a0-31bf 31f0-31ff 3400-4dbf 4e00-a48c a4d0-a4fd a500-a60c a610-a66f a674-a67d a67f-a6e5 " ++
  "a6f0-a6f1 a717-a71f a723-a788 a78c-a827 a82c a840-a873 a880-a8c5 a8d0-a8f7 a8fb a8fd-a92d " ++
  "a930-a953 a980-a9c0 a9cf-a9d9 a9e0-aa59 aa60-aa76 aa7a-aadd aae0-aaef aaf2-ab5a ab60-ab68 " ++
  "abc0-abea abec-d7a3 fa0e-fb1e fe20-fe2f fe73-100fa 101fd-102e0 10300-1031f 1032d-10340 " ++
  "10342-10349 10350-1039d 103a0-103cf 10428-10563 10597-10855 10860-10876 10880-1089e " ++
  "108e0-108f5 10900-10915 10920-10939 10980-109b7 109be-109bf 10a00-10a3f 10a60-10a7c " ++
  "10a80-10a9c 10ac0-10ac7 10ac9-10ae6 10b00-10b35 10b40-10b55 10b60-10b72 10b80-10b91 " ++
  "10c00-10cf2 10d00-10d39 10e80-10eac 10eb0-10eb1 10f00-10f1c 10f27-10f50 10f70-10f85 " ++
  "10fb0-10fc4 10fe0-11046 11066-110ba 110c2-1113f 11144-11173 11176-111c4 111c9-111cc " ++
  "111ce-111da 111dc 11200-11237 1123e 11280-112a8 112b0-1144a 11450-11459 1145e-114c5 " ++
  "114c7-115c0 115d8-11640 11644-11659 11680-116b8 116c0-11739 11740-1183a 118c0-118e9 " ++
  "118ff-11943 11950-119e1 119e3-11a3e 11a47-11a99 11a9d 11ab0-11af8 11c00-11c40 11c50-11c59 " ++
  "11c72-11ef6 11fb0 12000-12399 12480-12ff0 13000-1342e 14400-16a69 16a70-16af4 16b00-16b36 " ++
  "16b40-16b43 16b50-16b59 16b63-16e7f 16f00-16fe1 16fe3-1b122 1b150-1b152 1b164-1bc99 " ++
  "1bc9d-1bc9e 1cf00-1cf46 1da00-1da36 1da3b-1da6c 1da75 1da84 1da9b-1df1e 1e000-1e02a " ++
  "1e100-1e14e 1e290-1e2f9 1e7e0-1e8c4 1e8d0-1e959 20000-2ebe0 30000-3134a"

def greekLetters : CodeSet := .ofText <|
  "371-3e1 3f3-3fc 1d26-1d2a 1f00-1ff6 ab65"

def hebrewLetters : CodeSet := .ofText <|
  "591-5f2 fb1e"

def hiraganaLetters : CodeSet := .ofText <|
  "3041-3096 309d-309e 1b001-1b11f 1b150-1b152"

def katakanaLetters : CodeSet := .ofText <|
  "30a1-30fa 30fd-30fe 31f0-31ff 1aff0-1b000 1b120-1b122 1b164-1b167"

def hanLetters : CodeSet := .ofText <|
  "3005 3007 3400-9fff fa0e-fa29 16fe3 16ff0-16ff1 20000-3134a"

/-- Letters, digits and marks that strict names hold anywhere. -/
def isNameLetter (c : Char) : Bool :=
  if c.toNat < 0x80 then c.isLower || c.isDigit || c = '-'
  else nameLetters.contains c && HostMapping.ofChar c = .kept

def isArabicDigit (c : Char) : Bool := '\u0660' ≤ c && c ≤ '\u0669'

def isPersianDigit (c : Char) : Bool := '\u06f0' ≤ c && c ≤ '\u06f9'

/-- Whether a label may hold a character between these others; those in front
are in reverse. -/
def allowsBetween (label : List Char) (c : Char) (front behind : List Char) : Bool :=
  if c = '·' then front.head? = some 'l' && behind.head? = some 'l'
  else if c = '\u0375' then behind.head?.any greekLetters.contains
  else if c = '\u05f3' || c = '\u05f4' then front.head?.any hebrewLetters.contains
  else if c = '\u30fb' then
    label.any fun d => d ≠ '\u30fb' &&
      (hiraganaLetters.contains d || katakanaLetters.contains d || hanLetters.contains d)
  else if isArabicDigit c then !label.any isPersianDigit
  else isPersianDigit c && !label.any isArabicDigit

end PullReview.Unicode

namespace PullReview.Url

open Unicode

/-! ## Labels -/

/-- The points between labels. -/
def isLabelEnd (c : Char) : Bool := ['.', '\u3002', '\uff0e', '\uff61'].contains c

/-- Hyphens stand inside a label, and not as its third and fourth character. -/
def hyphensAreInside (label : List Char) : Bool :=
  label.head? ≠ some '-' && label.getLast? ≠ some '-' && (label.drop 2).take 2 ≠ ['-', '-']

/-- Whether each character may be where it is; `front` is in reverse. -/
def charactersAllowed (label front : List Char) : List Char → Bool
  | [] => true
  | c :: behind =>
    let here : Bool :=
      if c = joiner || c = nonJoiner then allowsJoiner c front behind
      else isNameLetter c || allowsBetween label c front behind
    here && charactersAllowed label (c :: front) behind

/-- Whether characters make a label of a strict name. -/
def isStrictLabel (label : List Char) : Bool :=
  let isMixed := label.any fun c => (Direction.ofChar c).isRightward
  !label.isEmpty && composed label = label && hyphensAreInside label &&
    !label.head?.any isMark && charactersAllowed label [] label &&
    (!isMixed || Direction.isKeptIn label)

/-- The greatest length of a label. -/
def maxLabel : Nat := 63

/-- The greatest length of a name without a point at its end. -/
def maxName : Nat := 253

/-- A label of a strict name in ASCII. -/
def strictLabel? (label : List Char) : Option (List Char) :=
  let isGood : Bool :=
    match isAsciiText label, label with
    | true, 'x' :: 'n' :: '-' :: '-' :: form =>
      form.getLast?.any (· ≠ '-') && (Text.Punycode.decode .refuse form).any isStrictLabel
    | _, _ => isStrictLabel label
  let written := asciiLabel label
  if isGood && written.length ≤ maxLabel then some written else none

/-- A strict name in ASCII; one point may stand at its end. -/
def strictName? (cs : List Char) : Option (List Char) := do
  let labels := Text.splitAtEach '.' (cs.map fun c => if isLabelEnd c then '.' else c)
  let (labels, ending) : List (List Char) × List Char :=
    match labels.getLast? with
    | some [] => (labels.dropLast, ['.'])
    | _ => (labels, [])
  if labels.isEmpty then none
  let name := ((← labels.mapM strictLabel?).intersperse ['.']).flatten
  if name.length ≤ maxName then some (name ++ ending) else none

end PullReview.Url
