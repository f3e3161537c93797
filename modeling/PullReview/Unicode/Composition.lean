import PullReview.Unicode.CodeSet

/-!
# Composed characters

A letter with marks can be written as one character or as several, and marks
that do not touch each other in either order. `composed` brings a text of
characters of host names into the one form in which all that can be composed
is, with its marks in order.
-/

namespace PullReview.Unicode

/-- Composed characters, each followed by the two that it is composed of. -/
def compositionText : String :=
  "àa\u0300áa\u0301âa\u0302ãa\u0303äa\u0308åa\u030açc\u0327èe\u0300ée\u0301êe\u0302ëe\u0308" ++
  "ìi\u0300íi\u0301îi\u0302ïi\u0308ñn\u0303òo\u0300óo\u0301ôo\u0302õo\u0303öo\u0308ùu\u0300" ++
  "úu\u0301ûu\u0302üu\u0308ýy\u0301ÿy\u0308āa\u0304ăa\u0306ąa\u0328ćc\u0301ĉc\u0302ċc\u0307" ++
  "čc\u030cďd\u030cēe\u0304ĕe\u0306ėe\u0307ęe\u0328ěe\u030cĝg\u0302ğg\u0306ġg\u0307ģg\u0327" ++
  "ĥh\u0302ĩi\u0303īi\u0304ĭi\u0306įi\u0328ĵj\u0302ķk\u0327ĺl\u0301ļl\u0327ľl\u030cńn\u0301" ++
  "ņn\u0327ňn\u030cōo\u0304ŏo\u0306őo\u030bŕr\u0301ŗr\u0327řr\u030cśs\u0301ŝs\u0302şs\u0327" ++
  "šs\u030cţt\u0327ťt\u030cũu\u0303ūu\u0304ŭu\u0306ůu\u030aűu\u030bųu\u0328ŵw\u0302ŷy\u0302" ++
  "źz\u0301żz\u0307žz\u030cơo\u031bưu\u031bǎa\u030cǐi\u030cǒo\u030cǔu\u030cǖü\u0304ǘü\u0301" ++
  "ǚü\u030cǜü\u0300ǟä\u0304ǡȧ\u0304ǣæ\u0304ǧg\u030cǩk\u030cǫo\u0328ǭǫ\u0304ǯʒ\u030cǰj\u030c" ++
  "ǵg\u0301ǹn\u0300ǻå\u0301ǽæ\u0301ǿø\u0301ȁa\u030fȃa\u0311ȅe\u030fȇe\u0311ȉi\u030fȋi\u0311" ++
  "ȍo\u030fȏo\u0311ȑr\u030fȓr\u0311ȕu\u030fȗu\u0311șs\u0326țt\u0326ȟh\u030cȧa\u0307ȩe\u0327" ++
  "ȫö\u0304ȭõ\u0304ȯo\u0307ȱȯ\u0304ȳy\u0304ΐϊ\u0301άα\u0301έε\u0301ήη\u0301ίι\u0301ΰϋ\u0301" ++
  "ϊι\u0308ϋυ\u0308όο\u0301ύυ\u0301ώω\u0301йи\u0306ѐе\u0300ёе\u0308ѓг\u0301їі\u0308ќк\u0301" ++
  "ѝи\u0300ўу\u0306ѷѵ\u030fӂж\u0306ӑа\u0306ӓа\u0308ӗе\u0306ӛә\u0308ӝж\u0308ӟз\u0308ӣи\u0304" ++
  "ӥи\u0308ӧо\u0308ӫө\u0308ӭэ\u0308ӯу\u0304ӱу\u0308ӳу\u030bӵч\u0308ӹы\u0308\u0622\u0627\u0653" ++
  "\u0623\u0627\u0654\u0624\u0648\u0654\u0625\u0627\u0655\u0626\u064a\u0654\u06c0\u06d5\u0654" ++
  "\u06c2\u06c1\u0654\u06d3\u06d2\u0654ऩन\u093cऱर\u093cऴळ\u093c\u09cb\u09c7\u09be" ++
  "\u09cc\u09c7\u09d7\u0b48\u0b47\u0b56\u0b4b\u0b47\u0b3e\u0b4c\u0b47\u0b57ஔஒ\u0bd7" ++
  "\u0bca\u0bc6\u0bbe\u0bcb\u0bc7\u0bbe\u0bcc\u0bc6\u0bd7\u0c48\u0c46\u0c56\u0cc0\u0cbf\u0cd5" ++
  "\u0cc7\u0cc6\u0cd5\u0cc8\u0cc6\u0cd6\u0cca\u0cc6\u0cc2\u0ccb\u0cca\u0cd5\u0d4a\u0d46\u0d3e" ++
  "\u0d4b\u0d47\u0d3e\u0d4c\u0d46\u0d57\u0dda\u0dd9\u0dca\u0ddc\u0dd9\u0dcf\u0ddd\u0ddc\u0dca" ++
  "\u0dde\u0dd9\u0ddfဦဥ\u102eᬆᬅ\u1b35ᬈᬇ\u1b35ᬊᬉ\u1b35ᬌᬋ\u1b35ᬎᬍ\u1b35ᬒᬑ\u1b35" ++
  "\u1b3b\u1b3a\u1b35\u1b3d\u1b3c\u1b35\u1b40\u1b3e\u1b35\u1b41\u1b3f\u1b35\u1b43\u1b42\u1b35" ++
  "ḁa\u0325ḃb\u0307ḅb\u0323ḇb\u0331ḉç\u0301ḋd\u0307ḍd\u0323ḏd\u0331ḑd\u0327ḓd\u032dḕē\u0300" ++
  "ḗē\u0301ḙe\u032dḛe\u0330ḝȩ\u0306ḟf\u0307ḡg\u0304ḣh\u0307ḥh\u0323ḧh\u0308ḩh\u0327ḫh\u032e" ++
  "ḭi\u0330ḯï\u0301ḱk\u0301ḳk\u0323ḵk\u0331ḷl\u0323ḹḷ\u0304ḻl\u0331ḽl\u032dḿm\u0301ṁm\u0307" ++
  "ṃm\u0323ṅn\u0307ṇn\u0323ṉn\u0331ṋn\u032dṍõ\u0301ṏõ\u0308ṑō\u0300ṓō\u0301ṕp\u0301ṗp\u0307" ++
  "ṙr\u0307ṛr\u0323ṝṛ\u0304ṟr\u0331ṡs\u0307ṣs\u0323ṥś\u0307ṧš\u0307ṩṣ\u0307ṫt\u0307ṭt\u0323" ++
  "ṯt\u0331ṱt\u032dṳu\u0324ṵu\u0330ṷu\u032dṹũ\u0301ṻū\u0308ṽv\u0303ṿv\u0323ẁw\u0300ẃw\u0301" ++
  "ẅw\u0308ẇw\u0307ẉw\u0323ẋx\u0307ẍx\u0308ẏy\u0307ẑz\u0302ẓz\u0323ẕz\u0331ẖh\u0331ẗt\u0308" ++
  "ẘw\u030aẙy\u030aạa\u0323ảa\u0309ấâ\u0301ầâ\u0300ẩâ\u0309ẫâ\u0303ậạ\u0302ắă\u0301ằă\u0300" ++
  "ẳă\u0309ẵă\u0303ặạ\u0306ẹe\u0323ẻe\u0309ẽe\u0303ếê\u0301ềê\u0300ểê\u0309ễê\u0303ệẹ\u0302" ++
  "ỉi\u0309ịi\u0323ọo\u0323ỏo\u0309ốô\u0301ồô\u0300ổô\u0309ỗô\u0303ộọ\u0302ớơ\u0301ờơ\u0300" ++
  "ởơ\u0309ỡơ\u0303ợơ\u0323ụu\u0323ủu\u0309ứư\u0301ừư\u0300ửư\u0309ữư\u0303ựư\u0323ỳy\u0300" ++
  "ỵy\u0323ỷy\u0309ỹy\u0303ἀα\u0313ἁα\u0314ἂἀ\u0300ἃἁ\u0300ἄἀ\u0301ἅἁ\u0301ἆἀ\u0342ἇἁ\u0342" ++
  "ἐε\u0313ἑε\u0314ἒἐ\u0300ἓἑ\u0300ἔἐ\u0301ἕἑ\u0301ἠη\u0313ἡη\u0314ἢἠ\u0300ἣἡ\u0300ἤἠ\u0301" ++
  "ἥἡ\u0301ἦἠ\u0342ἧἡ\u0342ἰι\u0313ἱι\u0314ἲἰ\u0300ἳἱ\u0300ἴἰ\u0301ἵἱ\u0301ἶἰ\u0342ἷἱ\u0342" ++
  "ὀο\u0313ὁο\u0314ὂὀ\u0300ὃὁ\u0300ὄὀ\u0301ὅὁ\u0301ὐυ\u0313ὑυ\u0314ὒὐ\u0300ὓὑ\u0300ὔὐ\u0301" ++
  "ὕὑ\u0301ὖὐ\u0342ὗὑ\u0342ὠω\u0313ὡω\u0314ὢὠ\u0300ὣὡ\u0300ὤὠ\u0301ὥὡ\u0301ὦὠ\u0342ὧὡ\u0342" ++
  "ὰα\u0300ὲε\u0300ὴη\u0300ὶι\u0300ὸο\u0300ὺυ\u0300ὼω\u0300ᾰα\u0306ᾱα\u0304ᾶα\u0342ῆη\u0342" ++
  "ῐι\u0306ῑι\u0304ῒϊ\u0300ῖι\u0342ῗϊ\u0342ῠυ\u0306ῡυ\u0304ῢϋ\u0300ῤρ\u0313ῥρ\u0314ῦυ\u0342" ++
  "ῧϋ\u0342ῶω\u0342↚←\u0338↛→\u0338↮↔\u0338⇍⇐\u0338⇎⇔\u0338⇏⇒\u0338∄∃\u0338∉∈\u0338∌∋\u0338" ++
  "∤∣\u0338∦∥\u0338≁∼\u0338≄≃\u0338≇≅\u0338≉≈\u0338≠=\u0338≢≡\u0338≭≍\u0338≮<\u0338≯>\u0338" ++
  "≰≤\u0338≱≥\u0338≴≲\u0338≵≳\u0338≸≶\u0338≹≷\u0338⊀≺\u0338⊁≻\u0338⊄⊂\u0338⊅⊃\u0338⊈⊆\u0338" ++
  "⊉⊇\u0338⊬⊢\u0338⊭⊨\u0338⊮⊩\u0338⊯⊫\u0338⋠≼\u0338⋡≽\u0338⋢⊑\u0338⋣⊒\u0338⋪⊲\u0338⋫⊳\u0338" ++
  "⋬⊴\u0338⋭⊵\u0338がか\u3099ぎき\u3099ぐく\u3099げけ\u3099ごこ\u3099ざさ\u3099じし\u3099" ++
  "ずす\u3099ぜせ\u3099ぞそ\u3099だた\u3099ぢち\u3099づつ\u3099でて\u3099どと\u3099ばは\u3099" ++
  "ぱは\u309aびひ\u3099ぴひ\u309aぶふ\u3099ぷふ\u309aべへ\u3099ぺへ\u309aぼほ\u3099ぽほ\u309a" ++
  "ゔう\u3099ゞゝ\u3099ガカ\u3099ギキ\u3099グク\u3099ゲケ\u3099ゴコ\u3099ザサ\u3099ジシ\u3099" ++
  "ズス\u3099ゼセ\u3099ゾソ\u3099ダタ\u3099ヂチ\u3099ヅツ\u3099デテ\u3099ドト\u3099バハ\u3099" ++
  "パハ\u309aビヒ\u3099ピヒ\u309aブフ\u3099プフ\u309aベヘ\u3099ペヘ\u309aボホ\u3099ポホ\u309a" ++
  "ヴウ\u3099ヷワ\u3099ヸヰ\u3099ヹヱ\u3099ヺヲ\u3099ヾヽ\u3099"

/-- Composed characters of high numbers. -/
def highCompositions : List (Nat × Nat × Nat) := [
  (0x1109a, 0x11099, 0x110ba), (0x1109c, 0x1109b, 0x110ba), (0x110ab, 0x110a5, 0x110ba),
  (0x1112e, 0x11131, 0x11127), (0x1112f, 0x11132, 0x11127), (0x1134b, 0x11347, 0x1133e),
  (0x1134c, 0x11347, 0x11357), (0x114bb, 0x114b9, 0x114ba), (0x114bc, 0x114b9, 0x114b0),
  (0x114be, 0x114b9, 0x114bd), (0x115ba, 0x115b8, 0x115af), (0x115bb, 0x115b9, 0x115af),
  (0x11938, 0x11935, 0x11930)]

/-- Composed characters, each with the two that it is composed of. -/
def compositions : List (Char × Char × Char) :=
  go compositionText.toList ++
    highCompositions.map fun (c, a, b) => (Char.ofNat c, Char.ofNat a, Char.ofNat b)
where
  go : List Char → List (Char × Char × Char)
    | c :: a :: b :: rest => (c, a, b) :: go rest
    | _ => []

/-- The marks by their classes: marks of different classes do not touch. -/
def markClasses : List (Nat × CodeSet) := [
  (1, .ofText <|
    "334-338 1cd4 1ce2-1ce8 20d2-20d3 20d8-20da 20e5-20e6 20ea-20eb 10a39 16af0-16af4 " ++
    "1bc9e 1d167-1d169"),
  (6, .ofText <|
    "16ff0-16ff1"),
  (7, .ofText <|
    "93c 9bc a3c abc b3c c3c cbc 1037 1b34 1be6 1c37 a9b3 110ba 11173 111ca 11236 112e9 " ++
    "1133b-1133c 11446 114c3 115c0 116b7 1183a 11943 11d42 1e94a"),
  (8, .ofText <|
    "3099-309a"),
  (9, .ofText <|
    "94d 9cd a4d acd b4d bcd c4d ccd d3b-d3c d4d dca e3a eba f84 1039-103a 1714-1715 1734 " ++
    "17d2 1a60 1b44 1baa-1bab 1bf2-1bf3 2d7f a806 a82c a8c4 a953 a9c0 aaf6 abed 10a3f " ++
    "11046 11070 1107f 110b9 11133-11134 111c0 11235 112ea 1134d 11442 114c2 115bf 1163f " ++
    "116b6 1172b 11839 1193d-1193e 119e0 11a34 11a47 11a99 11c3f 11d44-11d45 11d97"),
  (10, .ofText <|
    "5b0"),
  (11, .ofText <|
    "5b1"),
  (12, .ofText <|
    "5b2"),
  (13, .ofText <|
    "5b3"),
  (14, .ofText <|
    "5b4"),
  (15, .ofText <|
    "5b5"),
  (16, .ofText <|
    "5b6"),
  (17, .ofText <|
    "5b7"),
  (18, .ofText <|
    "5b8 5c7"),
  (19, .ofText <|
    "5b9-5ba"),
  (20, .ofText <|
    "5bb"),
  (21, .ofText <|
    "5bc"),
  (22, .ofText <|
    "5bd"),
  (23, .ofText <|
    "5bf"),
  (24, .ofText <|
    "5c1"),
  (25, .ofText <|
    "5c2"),
  (26, .ofText <|
    "fb1e"),
  (27, .ofText <|
    "64b 8f0"),
  (28, .ofText <|
    "64c 8f1"),
  (29, .ofText <|
    "64d 8f2"),
  (30, .ofText <|
    "618 64e"),
  (31, .ofText <|
    "619 64f"),
  (32, .ofText <|
    "61a 650"),
  (33, .ofText <|
    "651"),
  (34, .ofText <|
    "652"),
  (35, .ofText <|
    "670"),
  (36, .ofText <|
    "711"),
  (84, .ofText <|
    "c55"),
  (91, .ofText <|
    "c56"),
  (103, .ofText <|
    "e38-e39"),
  (107, .ofText <|
    "e48-e4b"),
  (118, .ofText <|
    "eb8-eb9"),
  (122, .ofText <|
    "ec8-ecb"),
  (129, .ofText <|
    "f71"),
  (130, .ofText <|
    "f72 f7a-f7d f80"),
  (132, .ofText <|
    "f74"),
  (202, .ofText <|
    "321-322 327-328 1dd0"),
  (214, .ofText <|
    "1dce"),
  (216, .ofText <|
    "31b f39 1d165-1d166 1d16e-1d172"),
  (218, .ofText <|
    "1dfa 302a"),
  (220, .ofText <|
    "316-319 31c-320 323-326 329-333 339-33c 347-349 34d-34e 353-356 359-35a 591 596 59b " ++
    "5a2-5a7 5aa 5c5 655-656 65c 65f 6e3 6ea 6ed 731 734 737-739 73b-73c 73e 742 744 746 " ++
    "748 7f2 7fd 859-85b 899-89b 8cf-8d3 8e3 8e6 8e9 8ed-8ef 8f6 8f9-8fa 952 f18-f19 f35 " ++
    "f37 fc6 108d 193b 1a18 1a7f 1ab5-1aba 1abd 1abf-1ac0 1ac3-1ac4 1aca 1b6c 1cd5-1cd9 " ++
    "1cdc-1cdf 1ced 1dc2 1dca 1dcf 1df9 1dfd 1dff 20e8 20ec-20ef a92b-a92d aab4 fe27-fe2d " ++
    "101fd 102e0 10a0d 10a3a 10ae6 10f46-10f47 10f4b 10f4d-10f50 10f83 10f85 1d17b-1d182 " ++
    "1d18a-1d18b 1e8d0-1e8d6"),
  (222, .ofText <|
    "59a 5ad 1939 302d"),
  (224, .ofText <|
    "302e-302f"),
  (226, .ofText <|
    "1d16d"),
  (228, .ofText <|
    "5ae 18a9 1df7-1df8 302b"),
  (230, .ofText <|
    "300-314 33d-346 34a-34c 350-352 357 35b 363-36f 483-487 592-595 597-599 59c-5a1 " ++
    "5a8-5a9 5ab-5ac 5af 5c4 610-617 653-654 657-65b 65d-65e 6d6-6dc 6df-6e2 6e4 6e7-6e8 " ++
    "6eb-6ec 730 732-733 735-736 73a 73d 73f-741 743 745 747 749-74a 7eb-7f1 7f3 816-819 " ++
    "81b-823 825-827 829-82d 898 89c-89f 8ca-8ce 8d4-8e1 8e4-8e5 8e7-8e8 8ea-8ec 8f3-8f5 " ++
    "8f7-8f8 8fb-8ff 951 953-954 9fe f82-f83 f86-f87 135d-135f 17dd 193a 1a17 1a75-1a7c " ++
    "1ab0-1ab4 1abb-1abc 1ac1-1ac2 1ac5-1ac9 1acb-1ace 1b6b 1b6d-1b73 1cd0-1cd2 1cda-1cdb " ++
    "1ce0 1cf4 1cf8-1cf9 1dc0-1dc1 1dc3-1dc9 1dcb-1dcc 1dd1-1df5 1dfb 1dfe 20d0-20d1 " ++
    "20d4-20d7 20db-20dc 20e1 20e7 20e9 20f0 2cef-2cf1 2de0-2dff a66f a674-a67d a69e-a69f " ++
    "a6f0-a6f1 a8e0-a8f1 aab0 aab2-aab3 aab7-aab8 aabe-aabf aac1 fe20-fe26 fe2e-fe2f " ++
    "10376-1037a 10a0f 10a38 10ae5 10d24-10d27 10eab-10eac 10f48-10f4a 10f4c 10f82 10f84 " ++
    "11100-11102 11366-11374 1145e 16b30-16b36 1d185-1d189 1d1aa-1d1ad 1d242-1d244 " ++
    "1e000-1e02a 1e130-1e136 1e2ae 1e2ec-1e2ef 1e944-1e949"),
  (232, .ofText <|
    "315 31a 358 1df6 302c"),
  (233, .ofText <|
    "35c 35f 362 1dfc"),
  (234, .ofText <|
    "35d-35e 360-361 1dcd")]

/-- The class of a mark; zero for what is no mark that could be moved. -/
def markClass (c : Char) : Nat :=
  if c.toNat < 0x300 then 0
  else ((markClasses.find? fun m => m.2.contains c).map (·.1)).getD 0

/-- Takes a syllable of the Korean script apart. -/
def syllableParts? (c : Char) : Option (Char × Char) :=
  let n := c.toNat
  if 0xac00 ≤ n && n ≤ 0xd7a3 then
    let place := n - 0xac00
    if place % 28 = 0 then
      some (Char.ofNat (0x1100 + place / 588), Char.ofNat (0x1161 + place % 588 / 28))
    else some (Char.ofNat (n - place % 28), Char.ofNat (0x11a7 + place % 28))
  else none

/-- Puts two parts of a syllable of the Korean script together. -/
def syllable? (a b : Char) : Option Char :=
  let (m, n) := (a.toNat, b.toNat)
  if 0x1100 ≤ m && m ≤ 0x1112 && 0x1161 ≤ n && n ≤ 0x1175 then
    some (Char.ofNat (0xac00 + ((m - 0x1100) * 21 + (n - 0x1161)) * 28))
  else if 0xac00 ≤ m && m ≤ 0xd7a3 && (m - 0xac00) % 28 = 0 && 0x11a8 ≤ n && n ≤ 0x11c2 then
    some (Char.ofNat (m + (n - 0x11a7)))
  else none

/-- The two characters that one is composed of. -/
def parts? (c : Char) : Option (Char × Char) :=
  if c.toNat < 0xc0 then none
  else (syllableParts? c).or ((compositions.find? fun t => t.1 = c).map (·.2))

/-- The character that two others compose. -/
def pair? (a b : Char) : Option Char :=
  if b.toNat < 0x300 then none
  else (syllable? a b).or ((compositions.find? fun t => t.2 = (a, b)).map (·.1))

/-- A character taken apart as far as it goes, in no more than `depth` steps. -/
def decomposed : Nat → Char → List Char
  | 0, c => [c]
  | depth + 1, c =>
    match parts? c with
    | some (a, b) => decomposed depth a ++ [b]
    | none => [c]

/-- Puts a mark behind those of its class and of lesser classes; `marks` are in
reverse. -/
def insertMark (mark : Nat × Char) : List (Nat × Char) → List (Nat × Char)
  | [] => [mark]
  | last :: rest =>
    if mark.1 < last.1 then last :: insertMark mark rest else mark :: last :: rest

/-- Puts the marks between other characters in order; `marks` are those since
the last of them, in reverse. -/
def ordered : List (Nat × Char) → List Char → List (Nat × Char)
  | marks, [] => marks.reverse
  | marks, c :: cs =>
    match markClass c with
    | 0 => marks.reverse ++ (0, c) :: ordered [] cs
    | n => ordered (insertMark (n, c) marks) cs

/-- A text that is being composed: what is done, the character that others may
join, and the marks behind it that did not; lists are in reverse. -/
structure Composing where
  done : List Char := []
  base : Option Char := none
  marks : List (Nat × Char) := []

namespace Composing

def all (s : Composing) : List Char := s.marks.map (·.2) ++ s.base.toList ++ s.done

/-- Takes one character more. It joins the base unless a mark of its class or a
greater one stands between. -/
def push (s : Composing) (next : Nat × Char) : Composing :=
  let isFree : Bool := match s.marks with
    | [] => true
    | last :: _ => last.1 < next.1
  match (if isFree then s.base.bind fun a => pair? a next.2 else none) with
  | some c => { s with base := some c }
  | none =>
    if next.1 = 0 then { done := s.all, base := some next.2 }
    else { s with marks := next :: s.marks }

end Composing

/-- The composed form of a text. -/
def composed (cs : List Char) : List Char :=
  ((ordered [] (cs.flatMap (decomposed 4))).foldl Composing.push {}).all.reverse

end PullReview.Unicode
