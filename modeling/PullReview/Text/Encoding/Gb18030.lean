import PullReview.Text.Encoding.DoubleByte

/-!
# GB 18030

An extension of the encodings for Chinese to all of Unicode: characters that
have no two bytes take four, of which each counts on where the others stop.
-/

namespace PullReview.Text

/-- Where stretches of characters begin among those of four bytes: their places and
their numbers. -/
def fourByteStretches : List (Nat × Nat) := [
  (0, 0x80), (36, 0xa5), (38, 0xa9), (45, 0xb2), (50, 0xb8), (81, 0xd8), (89, 0xe2), (95, 0xeb),
  (96, 0xee), (100, 0xf4), (103, 0xf8), (104, 0xfb), (105, 0xfd), (109, 0x102), (126, 0x114),
  (133, 0x11c), (148, 0x12c), (172, 0x145), (175, 0x149), (179, 0x14e), (208, 0x16c),
  (306, 0x1cf), (307, 0x1d1), (308, 0x1d3), (309, 0x1d5), (310, 0x1d7), (311, 0x1d9),
  (312, 0x1db), (313, 0x1dd), (341, 0x1fa), (428, 0x252), (443, 0x262), (544, 0x2c8),
  (545, 0x2cc), (558, 0x2da), (741, 0x3a2), (742, 0x3aa), (749, 0x3c2), (750, 0x3ca),
  (805, 0x402), (819, 0x450), (820, 0x452), (7922, 0x2011), (7924, 0x2017), (7925, 0x201a),
  (7927, 0x201e), (7934, 0x2027), (7943, 0x2031), (7944, 0x2034), (7945, 0x2036), (7950, 0x203c),
  (8062, 0x20ad), (8148, 0x2104), (8149, 0x2106), (8152, 0x210a), (8164, 0x2117), (8174, 0x2122),
  (8236, 0x216c), (8240, 0x217a), (8262, 0x2194), (8264, 0x219a), (8374, 0x2209), (8380, 0x2210),
  (8381, 0x2212), (8384, 0x2216), (8388, 0x221b), (8390, 0x2221), (8392, 0x2224), (8393, 0x2226),
  (8394, 0x222c), (8396, 0x222f), (8401, 0x2238), (8406, 0x223e), (8416, 0x2249), (8419, 0x224d),
  (8424, 0x2253), (8437, 0x2262), (8439, 0x2268), (8445, 0x2270), (8482, 0x2296), (8485, 0x229a),
  (8496, 0x22a6), (8521, 0x22c0), (8603, 0x2313), (8936, 0x246a), (8946, 0x249c), (9046, 0x254c),
  (9050, 0x2574), (9063, 0x2590), (9066, 0x2596), (9076, 0x25a2), (9092, 0x25b4), (9100, 0x25be),
  (9108, 0x25c8), (9111, 0x25cc), (9113, 0x25d0), (9131, 0x25e6), (9162, 0x2607), (9164, 0x260a),
  (9218, 0x2641), (9219, 0x2643), (11329, 0x2e82), (11331, 0x2e85), (11334, 0x2e89),
  (11336, 0x2e8d), (11346, 0x2e98), (11361, 0x2ea8), (11363, 0x2eab), (11366, 0x2eaf),
  (11370, 0x2eb4), (11372, 0x2eb8), (11375, 0x2ebc), (11389, 0x2ecb), (11682, 0x2ffc),
  (11686, 0x3004), (11687, 0x3018), (11692, 0x301f), (11694, 0x302a), (11714, 0x303f),
  (11716, 0x3094), (11723, 0x309f), (11725, 0x30f7), (11730, 0x30ff), (11736, 0x312a),
  (11982, 0x322a), (11989, 0x3232), (12102, 0x32a4), (12336, 0x3390), (12348, 0x339f),
  (12350, 0x33a2), (12384, 0x33c5), (12393, 0x33cf), (12395, 0x33d3), (12397, 0x33d6),
  (12510, 0x3448), (12553, 0x3474), (12851, 0x359f), (12962, 0x360f), (12973, 0x361b),
  (13738, 0x3919), (13823, 0x396f), (13919, 0x39d1), (13933, 0x39e0), (14080, 0x3a74),
  (14298, 0x3b4f), (14585, 0x3c6f), (14698, 0x3ce1), (15583, 0x4057), (15847, 0x4160),
  (16318, 0x4338), (16434, 0x43ad), (16438, 0x43b2), (16481, 0x43de), (16729, 0x44d7),
  (17102, 0x464d), (17122, 0x4662), (17315, 0x4724), (17320, 0x472a), (17402, 0x477d),
  (17418, 0x478e), (17859, 0x4948), (17909, 0x497b), (17911, 0x497e), (17915, 0x4984),
  (17916, 0x4987), (17936, 0x499c), (17939, 0x49a0), (17961, 0x49b8), (18664, 0x4c78),
  (18703, 0x4ca4), (18814, 0x4d1a), (18962, 0x4daf), (19043, 0x9fa6), (33469, 0xe76c),
  (33470, 0xe7c8), (33471, 0xe7e7), (33484, 0xe815), (33485, 0xe819), (33490, 0xe81f),
  (33497, 0xe827), (33501, 0xe82d), (33505, 0xe833), (33513, 0xe83c), (33520, 0xe844),
  (33536, 0xe856), (33550, 0xe865), (37845, 0xf92d), (37921, 0xf97a), (37948, 0xf996),
  (38029, 0xf9e8), (38038, 0xf9f2), (38064, 0xfa10), (38065, 0xfa12), (38066, 0xfa15),
  (38069, 0xfa19), (38075, 0xfa22), (38076, 0xfa25), (38078, 0xfa2a), (39108, 0xfe32),
  (39109, 0xfe45), (39113, 0xfe53), (39114, 0xfe58), (39115, 0xfe67), (39116, 0xfe6c),
  (39265, 0xff5f), (39394, 0xffe6)]

/-- How many characters of four bytes there are before the last stretch ends. -/
def fourByteCount : Nat := 39420

/-- The place that four bytes name. -/
def fourBytePlace (a b c d : Nat) : Nat :=
  (((a - 0x81) * 10 + (b - 0x30)) * 126 + (c - 0x81)) * 10 + (d - 0x30)

/-- The character of four bytes. -/
def fourByteChar? (a b c d : Nat) : Option Char :=
  if a < 0x81 || a = 0xff || c < 0x81 || c = 0xff || d < 0x30 || 0x39 < d then none
  else if a < 0x90 then
    let place := fourBytePlace a b c d
    if fourByteCount ≤ place then none
    else (fourByteStretches.reverse.find? fun s => s.1 ≤ place).map fun s =>
      Char.ofNat (s.2 + (place - s.1))
  else
    let n := 0x10000 + (fourBytePlace a b c d - fourBytePlace 0x90 0x30 0x81 0x30)
    if n ≤ 0x10ffff then some (Char.ofNat n) else none

/-- Signs that are not in the encoding it extends. -/
def gb18030Signs : List (Nat × Nat × String) := [(0xa2, 0xe3, "€"), (0xa8, 0xbf, "ǹ"),
  (0xa9, 0x89, "〾⿰⿱⿲⿳⿴⿵⿶⿷⿸⿹⿺⿻"),
  (0xfe, 0x50, "⺁\ue816\ue817\ue818⺄㑳㑇⺈⺋\ue81e㖞㘚㘎⺌⺗㥮㤘\ue826㧏㧟㩳㧐\ue82b\ue82c㭎㱮㳠⺧\ue831\ue832⺪䁖䅟⺮䌷" ++
    "⺳⺶⺷\ue83b䎱䎬⺻䏝䓖䙡䙌\ue843䜣䜩䝼䞍⻊䥇䥺䥽䦂䦃䦅䦆䦟䦛䦷䦶\ue854\ue855䲣䲟䲠䲡䱷䲢䴓䴔䴕䴖䴗䴘䴙䶮\ue864")]

/-- Stretches of private use between signs: their first byte, their first and last
place and the number of their first character. -/
def privateStretches : List (Nat × Nat × Nat × Nat) := [
  (0xa2, 106, 111, 0xe766), (0xa2, 163, 163, 0xe76d), (0xa2, 174, 175, 0xe76e),
  (0xa2, 188, 189, 0xe770), (0xa4, 179, 189, 0xe772), (0xa5, 182, 189, 0xe77d),
  (0xa6, 120, 127, 0xe785), (0xa6, 152, 158, 0xe78d), (0xa6, 171, 172, 0xe794),
  (0xa6, 178, 178, 0xe796), (0xa6, 181, 189, 0xe797), (0xa7, 129, 143, 0xe7a0),
  (0xa7, 177, 189, 0xe7af), (0xa8, 85, 95, 0xe7bc), (0xa8, 123, 123, 0xe7c7),
  (0xa8, 128, 131, 0xe7c9), (0xa8, 169, 189, 0xe7cd), (0xa9, 24, 24, 0xe7e2),
  (0xa9, 27, 27, 0xe7e3), (0xa9, 29, 31, 0xe7e4), (0xa9, 86, 98, 0xe7f4),
  (0xa9, 175, 189, 0xe801), (0xd7, 185, 189, 0xe810)]

/-- The character of two bytes that stand for private use. -/
def privateChar? (a b : Nat) : Option Char := do
  let place ← placeFrom64 b
  if 0xaa ≤ a && a ≤ 0xaf && 0xa1 ≤ b then return Char.ofNat (0xe000 + (a - 0xaa) * 94 + (b - 0xa1))
  else if 0xf8 ≤ a && a ≤ 0xfe && 0xa1 ≤ b then return Char.ofNat (0xe234 + (a - 0xf8) * 94 + (b - 0xa1))
  else if 0xa1 ≤ a && a ≤ 0xa7 && place < 96 then return Char.ofNat (0xe4c6 + (a - 0xa1) * 96 + place)
  else
    (privateStretches.find? fun s => s.1 = a && s.2.1 ≤ place && place ≤ s.2.2.1).map fun s =>
      Char.ofNat (s.2.2.2 + (place - s.2.1))

def gb18030 : List Nat → Taken :=
  let taken := gb2312.numbers 0x4e00 0x9fa5
  let sign? (a b : Nat) : Option Char := gb18030Signs.findSome? fun (first, second, signs) =>
    if a = first && second ≤ b then
      (placeFrom64 b).bind fun place =>
        (placeFrom64 second).bind fun start => signs.toList[place - start]?
    else none
  fun bs => match bs with
    | [] => .unfinished
    | a :: rest =>
      if a < 0x80 then .char (Char.ofNat a) 1
      else match rest with
        | [] => .unfinished
        | b :: rest =>
          if 0x30 ≤ b && b ≤ 0x39 then
            match rest with
            | c :: d :: _ =>
              match fourByteChar? a b c d with
              | some char => .char char 4
              | none => .broken 1
            | _ => .unfinished
          else match (sign? a b).filter (· ≠ replacement) with
            | some c => .char c 2
            | none =>
              match (gbkPair taken a b).orElse fun _ => privateChar? a b with
              | some c => .char c 2
              | none => .broken 1

end PullReview.Text
