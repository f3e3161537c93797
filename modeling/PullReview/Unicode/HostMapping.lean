import PullReview.Unicode.CodeSet

/-!
# Characters of host names

A character of an internationalised host name stands for itself, is replaced by
others, is dropped, or is refused. Replacing makes capitals small and takes
compatible forms, such as ligatures and wide letters, apart.
-/

namespace PullReview.Unicode

/-- Characters that stand for themselves; those with a replacement in between
are covered as well. -/
def hostCharacters : CodeSet := .ofText <|
  "a1-377 37b-37d 390 3ac-4bf 4c2-52f 559-58a 58d-58f 591-5c7 5d0-5ea 5ef-5f4 606-61b 61d-6dc " ++
  "6de-70d 710-74a 74d-7b1 7c0-7fa 7fd-82d 830-83e 840-85b 85e 860-86a 870-88e 898-8e1 " ++
  "8e3-983 985-98c 98f-990 993-9a8 9aa-9b0 9b2 9b6-9b9 9bc-9c4 9c7-9c8 9cb-9ce 9d7 9e0-9e3 " ++
  "9e6-9fe a01-a03 a05-a0a a0f-a10 a13-a28 a2a-a30 a32 a35 a38-a39 a3c a3e-a42 a47-a48 " ++
  "a4b-a4d a51 a5c a66-a76 a81-a83 a85-a8d a8f-a91 a93-aa8 aaa-ab0 ab2-ab3 ab5-ab9 abc-ac5 " ++
  "ac7-ac9 acb-acd ad0 ae0-ae3 ae6-af1 af9-aff b01-b03 b05-b0c b0f-b10 b13-b28 b2a-b30 " ++
  "b32-b33 b35-b39 b3c-b44 b47-b48 b4b-b4d b55-b57 b5f-b63 b66-b77 b82-b83 b85-b8a b8e-b90 " ++
  "b92-b95 b99-b9a b9c b9e-b9f ba3-ba4 ba8-baa bae-bb9 bbe-bc2 bc6-bc8 bca-bcd bd0 bd7 " ++
  "be6-bfa c00-c0c c0e-c10 c12-c28 c2a-c39 c3c-c44 c46-c48 c4a-c4d c55-c56 c58-c5a c5d " ++
  "c60-c63 c66-c6f c77-c8c c8e-c90 c92-ca8 caa-cb3 cb5-cb9 cbc-cc4 cc6-cc8 cca-ccd cd5-cd6 " ++
  "cdd-cde ce0-ce3 ce6-cef cf1-cf3 d00-d0c d0e-d10 d12-d44 d46-d48 d4a-d4f d54-d63 d66-d7f " ++
  "d81-d83 d85-d96 d9a-db1 db3-dbb dbd dc0-dc6 dca dcf-dd4 dd6 dd8-ddf de6-def df2-df4 " ++
  "e01-e3a e3f-e5b e81-e82 e84 e86-e8a e8c-ea3 ea5 ea7-ebd ec0-ec4 ec6 ec8-ece ed0-ed9 " ++
  "ede-edf f00-f47 f49-f6c f71-f97 f99-fbc fbe-fcc fce-fda 1000-109f 10d0-115e 1161-1248 " ++
  "124a-124d 1250-1256 1258 125a-125d 1260-1288 128a-128d 1290-12b0 12b2-12b5 12b8-12be 12c0 " ++
  "12c2-12c5 12c8-12d6 12d8-1310 1312-1315 1318-135a 135d-137c 1380-1399 13a0-13f5 1400-167f " ++
  "1681-169c 16a0-16f8 1700-1715 171f-1736 1740-1753 1760-176c 176e-1770 1772-1773 1780-17b3 " ++
  "17b6-17dd 17e0-17e9 17f0-17f9 1800-1819 1820-1878 1880-18aa 18b0-18f5 1900-191e 1920-192b " ++
  "1930-193b 1940 1944-196d 1970-1974 1980-19ab 19b0-19c9 19d0-19da 19de-1a1b 1a1e-1a5e " ++
  "1a60-1a7c 1a7f-1a89 1a90-1a99 1aa0-1aad 1ab0-1ace 1b00-1b4c 1b50-1b7e 1b80-1bf3 1bfc-1c37 " ++
  "1c3b-1c49 1c4d-1c7f 1cc0-1cc7 1cd0-1cfa 1d00-1f15 1f20-1f45 1f50-1f57 1f60-1f7c 1fb0-1fb1 " ++
  "1fb6 1fc6-1fd2 1fd6-1fd7 1fe0-1fe7 1ff6 200c-200d 2010-2023 2027 2030-205e 20a0-20c0 " ++
  "20d0-20f0 2104-212e 213a-2182 2184-218b 2190-2426 2440-244a 24eb-2b73 2b76-2b95 2b97-2cf3 " ++
  "2cf9-2d25 2d27 2d2d 2d30-2d67 2d70 2d7f-2d96 2da0-2da6 2da8-2dae 2db0-2db6 2db8-2dbe " ++
  "2dc0-2dc6 2dc8-2dce 2dd0-2dd6 2dd8-2dde 2de0-2e5d 2e80-2e99 2e9b-2ef2 3001-303f 3041-3096 " ++
  "3099-30fe 3105-312f 3190-31e3 31f0-31ff 3248-327f 3400-a48c a490-a4c6 a4d0-a62b a641-a6f7 " ++
  "a700-a7ca a7d1 a7d3 a7d5-a7d9 a7f6-a82c a830-a839 a840-a877 a880-a8c5 a8ce-a8d9 a8e0-a953 " ++
  "a95f-a97c a980-a9cd a9cf-a9d9 a9de-a9fe aa00-aa36 aa40-aa4d aa50-aa59 aa5c-aac2 aadb-aaf6 " ++
  "ab01-ab06 ab09-ab0e ab11-ab16 ab20-ab26 ab28-ab2e ab30-ab6b abc0-abed abf0-abf9 ac00-d7a3 " ++
  "d7b0-d7c6 d7cb-d7fb fa0e-fa29 fb1e fbb2-fbc2 fd3e-fd4f fdcf fdfd-fdff fe20-fe2f fe45-fe46 " ++
  "fe73 10000-1000b 1000d-10026 10028-1003a 1003c-1003d 1003f-1004d 10050-1005d 10080-100fa " ++
  "10100-10102 10107-10133 10137-1018e 10190-1019c 101a0 101d0-101fd 10280-1029c 102a0-102d0 " ++
  "102e0-102fb 10300-10323 1032d-1034a 10350-1037a 10380-1039d 1039f-103c3 103c8-103d5 " ++
  "10428-1049d 104a0-104a9 104d8-104fb 10500-10527 10530-10563 1056f 10597-105a1 105a3-105b1 " ++
  "105b3-105b9 105bb-105bc 10600-10736 10740-10755 10760-10767 10780 10800-10805 10808 " ++
  "1080a-10835 10837-10838 1083c 1083f-10855 10857-1089e 108a7-108af 108e0-108f2 108f4-108f5 " ++
  "108fb-1091b 1091f-10939 1093f 10980-109b7 109bc-109cf 109d2-10a03 10a05-10a06 10a0c-10a13 " ++
  "10a15-10a17 10a19-10a35 10a38-10a3a 10a3f-10a48 10a50-10a58 10a60-10a9f 10ac0-10ae6 " ++
  "10aeb-10af6 10b00-10b35 10b39-10b55 10b58-10b72 10b78-10b91 10b99-10b9c 10ba9-10baf " ++
  "10c00-10c48 10cc0-10cf2 10cfa-10d27 10d30-10d39 10e60-10e7e 10e80-10ea9 10eab-10ead " ++
  "10eb0-10eb1 10efd-10f27 10f30-10f59 10f70-10f89 10fb0-10fcb 10fe0-10ff6 11000-1104d " ++
  "11052-11075 1107f-110bc 110be-110c2 110d0-110e8 110f0-110f9 11100-11134 11136-11147 " ++
  "11150-11176 11180-111df 111e1-111f4 11200-11211 11213-11241 11280-11286 11288 1128a-1128d " ++
  "1128f-1129d 1129f-112a9 112b0-112ea 112f0-112f9 11300-11303 11305-1130c 1130f-11310 " ++
  "11313-11328 1132a-11330 11332-11333 11335-11339 1133b-11344 11347-11348 1134b-1134d 11350 " ++
  "11357 1135d-11363 11366-1136c 11370-11374 11400-1145b 1145d-11461 11480-114c7 114d0-114d9 " ++
  "11580-115b5 115b8-115dd 11600-11644 11650-11659 11660-1166c 11680-116b9 116c0-116c9 " ++
  "11700-1171a 1171d-1172b 11730-11746 11800-1183b 118c0-118f2 118ff-11906 11909 1190c-11913 " ++
  "11915-11916 11918-11935 11937-11938 1193b-11946 11950-11959 119a0-119a7 119aa-119d7 " ++
  "119da-119e4 11a00-11a47 11a50-11aa2 11ab0-11af8 11b00-11b09 11c00-11c08 11c0a-11c36 " ++
  "11c38-11c45 11c50-11c6c 11c70-11c8f 11c92-11ca7 11ca9-11cb6 11d00-11d06 11d08-11d09 " ++
  "11d0b-11d36 11d3a 11d3c-11d3d 11d3f-11d47 11d50-11d59 11d60-11d65 11d67-11d68 11d6a-11d8e " ++
  "11d90-11d91 11d93-11d98 11da0-11da9 11ee0-11ef8 11f00-11f10 11f12-11f3a 11f3e-11f59 11fb0 " ++
  "11fc0-11ff1 11fff-12399 12400-1246e 12470-12474 12480-12543 12f90-12ff2 13000-1342f " ++
  "13440-13455 14400-14646 16800-16a38 16a40-16a5e 16a60-16a69 16a6e-16abe 16ac0-16ac9 " ++
  "16ad0-16aed 16af0-16af5 16b00-16b45 16b50-16b59 16b5b-16b61 16b63-16b77 16b7d-16b8f " ++
  "16e60-16e9a 16f00-16f4a 16f4f-16f87 16f8f-16f9f 16fe0-16fe4 16ff0-16ff1 17000-187f7 " ++
  "18800-18cd5 18d00-18d08 1aff0-1aff3 1aff5-1affb 1affd-1affe 1b000-1b122 1b132 1b150-1b152 " ++
  "1b155 1b164-1b167 1b170-1b2fb 1bc00-1bc6a 1bc70-1bc7c 1bc80-1bc88 1bc90-1bc99 1bc9c-1bc9f " ++
  "1cf00-1cf2d 1cf30-1cf46 1cf50-1cfc3 1d000-1d0f5 1d100-1d126 1d129-1d172 1d17b-1d1ea " ++
  "1d200-1d245 1d2c0-1d2d3 1d2e0-1d2f3 1d300-1d356 1d360-1d378 1d800-1da8b 1da9b-1da9f " ++
  "1daa1-1daaf 1df00-1df1e 1df25-1df2a 1e000-1e006 1e008-1e018 1e01b-1e021 1e023-1e024 " ++
  "1e026-1e02a 1e08f 1e100-1e12c 1e130-1e13d 1e140-1e149 1e14e-1e14f 1e290-1e2ae 1e2c0-1e2f9 " ++
  "1e2ff 1e4d0-1e4f9 1e7e0-1e7e6 1e7e8-1e7eb 1e7ed-1e7ee 1e7f0-1e7fe 1e800-1e8c4 1e8c7-1e8d6 " ++
  "1e922-1e94b 1e950-1e959 1e95e-1e95f 1ec71-1ecb4 1ed01-1ed3d 1eef0-1eef1 1f000-1f02b " ++
  "1f030-1f093 1f0a0-1f0ae 1f0b1-1f0bf 1f0c1-1f0cf 1f0d1-1f0f5 1f10b-1f1ad 1f1e6-1f1ff " ++
  "1f260-1f265 1f300-1f6d7 1f6dc-1f6ec 1f6f0-1f6fc 1f700-1f776 1f77b-1f7d9 1f7e0-1f7eb 1f7f0 " ++
  "1f800-1f80b 1f810-1f847 1f850-1f859 1f860-1f887 1f890-1f8ad 1f8b0-1f8b1 1f900-1fa53 " ++
  "1fa60-1fa6d 1fa70-1fa7c 1fa80-1fa88 1fa90-1fabd 1fabf-1fac5 1face-1fadb 1fae0-1fae8 " ++
  "1faf0-1faf8 1fb00-1fb92 1fb94-1fbca 20000-2a6df 2a700-2b738 2b740-2b81d 2b820-2cea1 " ++
  "2ceb0-2ebe0 2ebf0-2ee5d 30000-3134a 31350-323af"

/-- Characters that are dropped. -/
def droppedCharacters : CodeSet := .ofText <|
  "ad 34f 180b-180f 200b 2060 2064 fe00-fe0f feff 1bca0-1bca3 e0100-e01ef"

/-- Runs of characters, each replaced by one: the first code point of the run
and the replacements in order. A character in between that is not replaced has
itself there. -/
def singleReplacements : List (Nat × String) := [
  (0xa0, " "),
  (0xaa, "a"),
  (0xb2, "23"),
  (0xb5, "μ"),
  (0xb9, "1o"),
  (0xd8, "øùúûüýþ"),
  (0x100, "āāăăąąććĉĉċċččďďđđēēĕĕėėęęěěĝĝğğġġģģĥĥħħĩĩīīĭĭį"),
  (0x134, "ĵĵķķĸĺĺļļľ"),
  (0x141, "łłńńņņň"),
  (0x14a, "ŋŋōōŏŏőőœœŕŕŗŗřřśśŝŝşşššţţťťŧŧũũūūŭŭůůűűųųŵŵŷŷÿźźżżžžsƀɓƃƃƅƅɔƈƈɖɗƌƌƍǝəɛƒƒɠɣƕɩɨƙƙƚƛɯɲ" ++
    "ƞɵơơƣƣƥƥʀƨƨʃƪƫƭƭʈưưʊʋƴƴƶƶʒƹƹƺƻƽ"),
  (0x1cd, "ǎǎǐǐǒǒǔǔǖǖǘǘǚǚǜǜǝǟǟǡǡǣǣǥǥǧǧǩǩǫǫǭǭǯ"),
  (0x1f4, "ǵǵƕƿǹǹǻǻǽǽǿǿȁȁȃȃȅȅȇȇȉȉȋȋȍȍȏȏȑȑȓȓȕȕȗȗșșțțȝȝȟȟƞȡȣȣȥȥȧȧȩȩȫȫȭȭȯȯȱȱȳ"),
  (0x23a, "ⱥȼȼƚⱦȿɀɂɂƀʉʌɇɇɉɉɋɋɍɍɏ"),
  (0x2b0, "hɦjrɹɻʁwy"),
  (0x2e0, "ɣlsxʕ"),
  (0x340, "\u0300\u0301\u0342\u0313"),
  (0x345, "ι"),
  (0x370, "ͱͱͳͳʹ͵ͷ"),
  (0x37e, ";ϳ"),
  (0x386, "ά·έήί"),
  (0x38c, "ό"),
  (0x38e, "ύώ"),
  (0x3cf, "ϗβθυύϋφπϗϙϙϛϛϝϝϟϟϡϡϣϣϥϥϧϧϩϩϫϫϭϭϯϯκρσϳθε϶ϸϸσϻϻϼͻͼͽ"),
  (0x460, "ѡѡѣѣѥѥѧѧѩѩѫѫѭѭѯѯѱѱѳѳѵѵѷѷѹѹѻѻѽѽѿѿҁ"),
  (0x48a, "ҋҋҍҍҏҏґґғғҕҕҗҗҙҙққҝҝҟҟҡҡңңҥҥҧҧҩҩҫҫҭҭүүұұҳҳҵҵҷҷҹҹһһҽҽҿ"),
  (0x4c1, "ӂӂӄӄӆӆӈӈӊӊӌӌӎӎӏӑӑӓӓӕӕӗӗәәӛӛӝӝӟӟӡӡӣӣӥӥӧӧөөӫӫӭӭӯӯӱӱӳӳӵӵӷӷӹӹӻӻӽӽӿӿԁԁԃԃԅԅԇԇԉԉԋԋԍԍԏԏԑԑԓԓԕ" ++
    "ԕԗԗԙԙԛԛԝԝԟԟԡԡԣԣԥԥԧԧԩԩԫԫԭԭԯ"),
  (0xf0c, "་"),
  (0x10c7, "ⴧ"),
  (0x10cd, "ⴭ"),
  (0x10fc, "ნ"),
  (0x13f8, "ᏰᏱᏲᏳᏴᏵ"),
  (0x1c80, "вдосттъѣꙋ"),
  (0x1cbd, "ჽჾჿ"),
  (0x1d2c, "aæbᴯdeǝ"),
  (0x1d3c, "oȣprtuwaɐɑᴂbdeəɛɜgᵎkmŋoɔᴖᴗptuᴝɯvᴥβγδφχiruvβγρφχ"),
  (0x1d78, "н"),
  (0x1d9b, "ɒcɕðɜfɟɡɥɨɩɪᵻʝɭᶅʟɱɰɲɳɴɵɸʂʃƫʉʊᴜʋʌzʐʑʒθ"),
  (0x1e00, "ḁḁḃḃḅḅḇḇḉḉḋḋḍḍḏḏḑḑḓḓḕḕḗḗḙḙḛḛḝḝḟḟḡḡḣḣḥḥḧḧḩḩḫḫḭḭḯḯḱḱḳḳḵḵḷḷḹḹḻḻḽḽḿḿṁṁṃṃṅṅṇṇṉṉṋṋṍṍṏṏṑṑṓṓ" ++
    "ṕṕṗṗṙṙṛṛṝṝṟṟṡṡṣṣṥṥṧṧṩṩṫṫṭṭṯṯṱṱṳṳṵṵṷṷṹṹṻṻṽṽṿṿẁẁẃẃẅẅẇẇẉẉẋẋẍẍẏẏẑẑẓẓẕ"),
  (0x1e9b, "ṡẜẝßẟạạảảấấầầẩẩẫẫậậắắằằẳẳẵẵặặẹẹẻẻẽẽếếềềểểễễệệỉỉịịọọỏỏốốồồổổỗỗộộớớờờởởỡỡợợụụủủứứừừửửữ" ++
    "ữựựỳỳỵỵỷỷỹỹỻỻỽỽỿ"),
  (0x1f18, "ἐἑἒἓἔἕ"),
  (0x1f48, "ὀὁὂὃὄὅ"),
  (0x1f59, "ὑ"),
  (0x1f5b, "ὓ"),
  (0x1f5d, "ὕ"),
  (0x1f5f, "ὗ"),
  (0x1f71, "άὲέὴήὶίὸόὺύὼώ"),
  (0x1fb8, "ᾰᾱὰά"),
  (0x1fbe, "ι"),
  (0x1fc8, "ὲέὴή"),
  (0x1fd3, "ΐ"),
  (0x1fd8, "ῐῑὶί"),
  (0x1fe3, "ΰ"),
  (0x1fe8, "ῠῡὺύῥ"),
  (0x1fef, "\x60"),
  (0x1ff8, "ὸόὼώ"),
  (0x2000, "           "),
  (0x2011, "‐"),
  (0x202f, " "),
  (0x205f, " "),
  (0x2070, "0i"),
  (0x2074, "456789+−=()n"),
  (0x208a, "+−=()"),
  (0x2090, "aeoxəhklmnpst"),
  (0x2102, "c"),
  (0x2107, "ɛ"),
  (0x210a, "ghhhhħiill℔n"),
  (0x2119, "pqrrr"),
  (0x2124, "z℥ω℧z℩kåbc℮eef"),
  (0x2133, "mo\u05d0\u05d1\u05d2\u05d3i"),
  (0x213c, "πγγπ∑"),
  (0x2145, "ddeij"),
  (0x2160, "i"),
  (0x2164, "v"),
  (0x2169, "x"),
  (0x216c, "lcdmi"),
  (0x2174, "v"),
  (0x2179, "x"),
  (0x217c, "lcdm"),
  (0x2329, "〈〉"),
  (0x24ea, "0"),
  (0x2c60, "ⱡⱡɫᵽɽⱥⱦⱨⱨⱪⱪⱬⱬɑɱɐɒⱱⱳⱳⱴⱶ"),
  (0x2c7c, "jvȿɀⲁⲁⲃⲃⲅⲅⲇⲇⲉⲉⲋⲋⲍⲍⲏⲏⲑⲑⲓⲓⲕⲕⲗⲗⲙⲙⲛⲛⲝⲝⲟⲟⲡⲡⲣⲣⲥⲥⲧⲧⲩⲩⲫⲫⲭⲭⲯⲯⲱⲱⲳⲳⲵⲵⲷⲷⲹⲹⲻⲻⲽⲽⲿⲿⳁⳁⳃⳃⳅⳅⳇⳇⳉⳉⳋⳋⳍⳍⳏⳏ" ++
    "ⳑⳑⳓⳓⳕⳕⳗⳗⳙⳙⳛⳛⳝⳝⳟⳟⳡⳡⳣ"),
  (0x2ceb, "ⳬⳬⳮ"),
  (0x2cf2, "ⳳ"),
  (0x2d6f, "ⵡ"),
  (0x2e9f, "母"),
  (0x2ef3, "龟"),
  (0x2f00, "一丨丶丿乙亅二亠人儿入八冂冖冫几凵刀力勹匕匚匸十卜卩厂厶又口囗土士夂夊夕大女子宀寸小" ++
    "尢尸屮山巛工己巾干幺广廴廾弋弓彐彡彳心戈戶手支攴文斗斤方无日曰月木欠止歹殳毋比毛氏气" ++
    "水火爪父爻爿片牙牛犬玄玉瓜瓦甘生用田疋疒癶白皮皿目矛矢石示禸禾穴立竹米糸缶网羊羽老而" ++
    "耒耳聿肉臣自至臼舌舛舟艮色艸虍虫血行衣襾見角言谷豆豕豸貝赤走足身車辛辰辵邑酉釆里金長" ++
    "門阜隶隹雨靑非面革韋韭音頁風飛食首香馬骨高髟鬥鬯鬲鬼魚鳥鹵鹿麥麻黃黍黑黹黽鼎鼓鼠鼻齊" ++
    "齒龍龜龠"),
  (0x3000, " 、."),
  (0x3036, "〒〷十卄卅"),
  (0x3131, "ᄀᄁᆪᄂᆬᆭᄃᄄᄅᆰᆱᆲᆳᆴᆵᄚᄆᄇᄈᄡ"),
  (0x3165, "ᄔᄕᇇᇈᇌᇎᇓᇗᇙᄜᇝᇟᄝᄞᄠᄢᄣᄧᄩᄫᄬᄭᄮᄯᄲᄶᅀᅇᅌᇱᇲᅗᅘᅙᆄᆅᆈᆑᆒᆔᆞᆡ"),
  (0x3192, "一二三四上中下甲乙丙丁天地人"),
  (0x3244, "問幼文箏"),
  (0x3260, "ᄀᄂᄃᄅᄆᄇᄉᄋᄌᄎᄏᄐᄑᄒ가나다라마바사아자차카타파하"),
  (0x327e, "우㉿一二三四五六七八九十月火水木金土日株有社名特財祝労秘男女適優印注項休写正上中下左" ++
    "右医宗学監企資協夜"),
  (0x32d0, "アイウエオカキクケコサシスセソタチツテトナニヌネノハヒフヘホマミムメモヤユヨラリルレ" ++
    "ロワヰヱヲ"),
  (0xa640, "ꙁꙁꙃꙃꙅꙅꙇꙇꙉꙉꙋꙋꙍꙍꙏꙏꙑꙑꙓꙓꙕꙕꙗꙗꙙꙙꙛꙛꙝꙝꙟꙟꙡꙡꙣꙣꙥꙥꙧꙧꙩꙩꙫꙫꙭ"),
  (0xa680, "ꚁꚁꚃꚃꚅꚅꚇꚇꚉꚉꚋꚋꚍꚍꚏꚏꚑꚑꚓꚓꚕꚕꚗꚗꚙꚙꚛꚛъь"),
  (0xa722, "ꜣꜣꜥꜥꜧꜧꜩꜩꜫꜫꜭꜭꜯꜯꜰꜱꜳꜳꜵꜵꜷꜷꜹꜹꜻꜻꜽꜽꜿꜿꝁꝁꝃꝃꝅꝅꝇꝇꝉꝉꝋꝋꝍꝍꝏꝏꝑꝑꝓꝓꝕꝕꝗꝗꝙꝙꝛꝛꝝꝝꝟꝟꝡꝡꝣꝣꝥꝥꝧꝧꝩꝩꝫꝫꝭꝭꝯꝯꝯ"),
  (0xa779, "ꝺꝺꝼꝼᵹꝿꝿꞁꞁꞃꞃꞅꞅꞇ"),
  (0xa78b, "ꞌꞌɥꞎꞏꞑꞑꞓꞓꞔꞕꞗꞗꞙꞙꞛꞛꞝꞝꞟꞟꞡꞡꞣꞣꞥꞥꞧꞧꞩꞩɦɜɡɬɪꞯʞʇʝꭓꞵꞵꞷꞷꞹꞹꞻꞻꞽꞽꞿꞿꟁꟁꟃꟃꞔʂᶎꟈꟈꟊ"),
  (0xa7d0, "ꟑ"),
  (0xa7d6, "ꟗꟗꟙ"),
  (0xa7f2, "cfqꟶꟶꟷħœ"),
  (0xab5c, "ꜧꬷɫꭒ"),
  (0xab69, "ʍ"),
  (0xf900, "豈更車賈滑串句龜龜契金喇奈懶癩羅蘿螺裸邏樂洛烙珞落酪駱亂卵欄爛蘭鸞嵐濫藍襤拉臘蠟廊朗" ++
    "浪狼郎來冷勞擄櫓爐盧老蘆虜路露魯鷺碌祿綠菉錄鹿論壟弄籠聾牢磊賂雷壘屢樓淚漏累縷陋勒肋" ++
    "凜凌稜綾菱陵讀拏樂諾丹寧怒率異北磻便復不泌數索參塞省葉說殺辰沈拾若掠略亮兩凉梁糧良諒" ++
    "量勵呂女廬旅濾礪閭驪麗黎力曆歷轢年憐戀撚漣煉璉秊練聯輦蓮連鍊列劣咽烈裂說廉念捻殮簾獵" ++
    "令囹寧嶺怜玲瑩羚聆鈴零靈領例禮醴隸惡了僚寮尿料樂燎療蓼遼龍暈阮劉杻柳流溜琉留硫紐類六" ++
    "戮陸倫崙淪輪律慄栗率隆利吏履易李梨泥理痢罹裏裡里離匿溺吝燐璘藺隣鱗麟林淋臨立笠粒狀炙" ++
    "識什茶刺切度拓糖宅洞暴輻行降見廓兀嗀﨎﨏塚﨑晴﨓﨔凞猪益礼神祥福靖精羽﨟蘒﨡諸﨣﨤逸" ++
    "都﨧﨨﨩飯飼館鶴郞隷侮僧免勉勤卑喝嘆器塀墨層屮悔慨憎懲敏既暑梅海渚漢煮爫琢碑社祉祈祐" ++
    "祖祝禍禎穀突節練縉繁署者臭艹艹著褐視謁謹賓贈辶逸難響頻恵𤋮舘"),
  (0xfa70, "並况全侀充冀勇勺喝啕喙嗢塚墳奄奔婢嬨廒廙彩徭惘慎愈憎慠懲戴揄搜摒敖晴朗望杖歹殺流滛滋" ++
    "漢瀞煮瞧爵犯猪瑱甆画瘝瘟益盛直睊着磌窱節类絛練缾者荒華蝹襁覆視調諸請謁諾諭謹變贈輸遲" ++
    "醙鉶陼難靖韛響頋頻鬒龜𢡊𢡄𣏕㮝䀘䀹𥉉𥳐𧻓齃龎"),
  (0xfb20, "\u05e2\u05d0\u05d3\u05d4\u05db\u05dc\u05dd\u05e8\u05ea+"),
  (0xfb50, "\u0671\u0671\u067b\u067b\u067b\u067b\u067e\u067e\u067e\u067e\u0680\u0680\u0680\u0680" ++
    "\u067a\u067a\u067a\u067a\u067f\u067f\u067f\u067f\u0679\u0679\u0679\u0679\u06a4\u06a4" ++
    "\u06a4\u06a4\u06a6\u06a6\u06a6\u06a6\u0684\u0684\u0684\u0684\u0683\u0683\u0683\u0683" ++
    "\u0686\u0686\u0686\u0686\u0687\u0687\u0687\u0687\u068d\u068d\u068c\u068c\u068e\u068e" ++
    "\u0688\u0688\u0698\u0698\u0691\u0691\u06a9\u06a9\u06a9\u06a9\u06af\u06af\u06af\u06af" ++
    "\u06b3\u06b3\u06b3\u06b3\u06b1\u06b1\u06b1\u06b1\u06ba\u06ba\u06bb\u06bb\u06bb\u06bb" ++
    "\u06c0\u06c0\u06c1\u06c1\u06c1\u06c1\u06be\u06be\u06be\u06be\u06d2\u06d2\u06d3\u06d3"),
  (0xfbd3, "\u06ad\u06ad\u06ad\u06ad\u06c7\u06c7\u06c6\u06c6\u06c8\u06c8"),
  (0xfbde, "\u06cb\u06cb\u06c5\u06c5\u06c9\u06c9\u06d0\u06d0\u06d0\u06d0\u0649\u0649"),
  (0xfbfc, "\u06cc\u06cc\u06cc\u06cc"),
  (0xfe10, ",、"),
  (0xfe13, ":;!?〖〗"),
  (0xfe31, "—–__()\x7b\x7d〔〕【】《》〈〉「」『』﹅﹆[]"),
  (0xfe4d, "___,、"),
  (0xfe54, ";:?!—()\x7b\x7d〔〕#&*+-<>="),
  (0xfe68, "\\$%@"),
  (0xfe80, "\u0621\u0622\u0622\u0623\u0623\u0624\u0624\u0625\u0625\u0626\u0626\u0626\u0626\u0627" ++
    "\u0627\u0628\u0628\u0628\u0628\u0629\u0629\u062a\u062a\u062a\u062a\u062b\u062b\u062b" ++
    "\u062b\u062c\u062c\u062c\u062c\u062d\u062d\u062d\u062d\u062e\u062e\u062e\u062e\u062f" ++
    "\u062f\u0630\u0630\u0631\u0631\u0632\u0632\u0633\u0633\u0633\u0633\u0634\u0634\u0634" ++
    "\u0634\u0635\u0635\u0635\u0635\u0636\u0636\u0636\u0636\u0637\u0637\u0637\u0637\u0638" ++
    "\u0638\u0638\u0638\u0639\u0639\u0639\u0639\u063a\u063a\u063a\u063a\u0641\u0641\u0641" ++
    "\u0641\u0642\u0642\u0642\u0642\u0643\u0643\u0643\u0643\u0644\u0644\u0644\u0644\u0645" ++
    "\u0645\u0645\u0645\u0646\u0646\u0646\u0646\u0647\u0647\u0647\u0647\u0648\u0648\u0649" ++
    "\u0649\u064a\u064a\u064a\u064a"),
  (0xff5f, "⦅⦆.「」、・ヲァィゥェォャュョッーアイウエオカキクケコサシスセソタチツテトナニヌネノ" ++
    "ハヒフヘホマミムメモヤユヨラリルレロワン\u3099\u309a"),
  (0xffa1, "ᄀᄁᆪᄂᆬᆭᄃᄄᄅᆰᆱᆲᆳᆴᆵᄚᄆᄇᄈᄡ"),
  (0xffc2, "ᅡᅢᅣᅤᅥᅦ"),
  (0xffca, "ᅧᅨᅩᅪᅫᅬ"),
  (0xffd2, "ᅭᅮᅯᅰᅱᅲ"),
  (0xffda, "ᅳᅴᅵ"),
  (0xffe0, "¢£¬"),
  (0xffe4, "¦¥₩"),
  (0xffe8, "│←↑→↓■○"),
  (0x1058c, "𐖳𐖴𐖵𐖶𐖷𐖸𐖹"),
  (0x10594, "𐖻𐖼"),
  (0x10781, "ːˑæʙɓ"),
  (0x10787, "ʣꭦʥʤɖɗᶑɘɞʩɤɢɠʛħʜɧʄʪʫɬ𝼄ꞎɮ𝼅ʎ𝼆øɶɷqɺ𝼈ɽɾʀʨʦꭧʧʈⱱ"),
  (0x107b2, "ʏʡʢʘǀǁǂ𝼊𝼞"),
  (0x1d44e, "abcdefg"),
  (0x1d49c, "a"),
  (0x1d49e, "cd"),
  (0x1d4a2, "g"),
  (0x1d4a5, "jk"),
  (0x1d4a9, "nopq"),
  (0x1d4b6, "abcd"),
  (0x1d4bb, "f"),
  (0x1d4bd, "hijklmn"),
  (0x1d504, "ab"),
  (0x1d507, "defg"),
  (0x1d516, "stuvwxy"),
  (0x1d538, "ab"),
  (0x1d53b, "defg"),
  (0x1d540, "ijklm"),
  (0x1d546, "o"),
  (0x1d54a, "stuvwxy"),
  (0x1d6a4, "ıȷ"),
  (0x1d6b9, "θστυφχψω∇"),
  (0x1d6d3, "σστυφχψω∂εθκφρπ"),
  (0x1d6f3, "θστυφχψω∇"),
  (0x1d70d, "σστυφχψω∂εθκφρπ"),
  (0x1d72d, "θστυφχψω∇"),
  (0x1d747, "σστυφχψω∂εθκφρπ"),
  (0x1d767, "θστυφχψω∇"),
  (0x1d781, "σστυφχψω∂εθκφρπ"),
  (0x1d7a1, "θστυφχψω∇"),
  (0x1d7bb, "σστυφχψω∂εθκφρπϝϝ"),
  (0x1e039, "клм"),
  (0x1e047, "ыэюꚉәіјөүӏ"),
  (0x1e05a, "клопсуфхцчшъыґіѕџҫꙑұ"),
  (0x1ee00, "\u0627\u0628\u062c\u062f"),
  (0x1ee05, "\u0648\u0632\u062d\u0637\u064a\u0643\u0644\u0645\u0646\u0633\u0639\u0641\u0635\u0642" ++
    "\u0631\u0634\u062a\u062b\u062e\u0630\u0636\u0638\u063a\u066e\u06ba\u06a1\u066f"),
  (0x1ee21, "\u0628\u062c"),
  (0x1ee24, "\u0647"),
  (0x1ee27, "\u062d"),
  (0x1ee29, "\u064a\u0643\u0644\u0645\u0646\u0633\u0639\u0641\u0635\u0642"),
  (0x1ee34, "\u0634\u062a\u062b\u062e"),
  (0x1ee39, "\u0636"),
  (0x1ee3b, "\u063a"),
  (0x1ee42, "\u062c"),
  (0x1ee47, "\u062d"),
  (0x1ee49, "\u064a"),
  (0x1ee4b, "\u0644"),
  (0x1ee4d, "\u0646\u0633\u0639"),
  (0x1ee51, "\u0635\u0642"),
  (0x1ee54, "\u0634"),
  (0x1ee57, "\u062e"),
  (0x1ee59, "\u0636"),
  (0x1ee5b, "\u063a"),
  (0x1ee5d, "\u06ba"),
  (0x1ee5f, "\u066f"),
  (0x1ee61, "\u0628\u062c"),
  (0x1ee64, "\u0647"),
  (0x1ee67, "\u062d\u0637\u064a\u0643"),
  (0x1ee6c, "\u0645\u0646\u0633\u0639\u0641\u0635\u0642"),
  (0x1ee74, "\u0634\u062a\u062b\u062e"),
  (0x1ee79, "\u0636\u0638\u063a\u066e"),
  (0x1ee7e, "\u06a1"),
  (0x1ee80, "\u0627\u0628\u062c\u062f\u0647\u0648\u0632\u062d\u0637\u064a"),
  (0x1ee8b, "\u0644\u0645\u0646\u0633\u0639\u0641\u0635\u0642\u0631\u0634\u062a\u062b\u062e\u0630" ++
    "\u0636\u0638\u063a"),
  (0x1eea1, "\u0628\u062c\u062f"),
  (0x1eea5, "\u0648\u0632\u062d\u0637\u064a"),
  (0x1eeab, "\u0644\u0645\u0646\u0633\u0639\u0641\u0635\u0642\u0631\u0634\u062a\u062b\u062e\u0630" ++
    "\u0636\u0638\u063a"),
  (0x1f12b, "cr"),
  (0x1f202, "サ"),
  (0x1f210, "手字双デ二多解天交映無料前後再新初終生販声吹演投捕一三遊左中右指走打禁空合満有月申割" ++
    "営配"),
  (0x1f250, "得可"),
  (0x2f800, "丽丸乁𠄢你侮侻倂偺備僧像㒞𠘺免兔兤具𠔜㒹內再𠕋冗冤仌冬况𩇟凵刃㓟刻剆割剷㔕勇勉勤勺包" ++
    "匆北卉卑博即卽卿卿卿𠨬灰及叟𠭣叫叱吆咞吸呈周咢哶唐啓啣善善喙喫喳嗂圖嘆圗噑噴切壮城埴" ++
    "堍型堲報墬𡓤売壷夆多夢奢𡚨𡛪姬娛娧姘婦㛮"),
  (0x2f869, "嬈嬾嬾𡧈寃寘寧寳𡬘寿将"),
  (0x2f875, "尢㞁屠屮峀岍𡷤嵃𡷦嵮嵫嵼巡巢㠯巽帨帽幩㡢𢆃㡼庰庳庶廊𪎒廾𢌱𢌱舁弢弢㣇𣊸𦇚形彫㣣徚忍志" ++
    "忹悁㤺㤜悔𢛔惇慈慌慎慌慺憎憲憤憯懞懲懶成戛扝抱拔捐𢬌挽拼捨掃揤𢯱搢揅掩㨮摩摾撝摷㩬敏" ++
    "敬𣀊旣書晉㬙暑㬈㫤冒冕最暜肭䏙朗望朡杞杓𣏃㭉柺枅桒梅𣑭梎栟椔㮝楂榣槪檨𣚣櫛㰘次𣢧歔㱎" ++
    "歲殟殺殻𣪍𡴋𣫺汎𣲼沿泍汧洖派海流浩浸涅𣴞洴港湮㴳滋滇𣻑淹潮𣽞𣾎濆瀹瀞瀛㶖灊災灷炭𠔥煅" ++
    "𤉣熜"),
  (0x2f920, "爨爵牐𤘈犀犕𤜵𤠔獺王㺬玥㺸㺸瑇瑜瑱璅瓊㼛甤𤰶甾𤲒異𢆟瘐𤾡𤾸𥁄㿼䀈直𥃳𥃲𥄙𥄳眞真真睊䀹" ++
    "瞋䁆䂖𥐝硎碌磌䃣𥘦祖𥚚𥛅福秫䄯穀穊穏𥥼𥪧𥪧"),
  (0x2f960, "䈂𥮫篆築䈧𥲀糒䊠糨糣紀𥾆絣䌁緇縂繅䌴𦈨𦉇䍙𦋙罺𦌾羕翺者𦓚𦔣聠𦖨聰𣍟䏕育脃䐋脾媵𦞧𦞵𣎓" ++
    "𣎜舁舄辞䑫芑芋芝劳花芳芽苦𦬼若茝荣莭茣莽菧著荓菊菌菜𦰶𦵫𦳕䔫蓱蓳蔖𧏊蕤𦼬䕝䕡𦾱𧃒䕫虐" ++
    "虜虧虩蚩蚈蜎蛢蝹蜨蝫螆"),
  (0x2f9c0, "蟡蠁䗹衠衣𧙧裗裞䘵裺㒻𧢮𧥦䚾䛇誠諭變豕𧲨貫賁贛起𧼯𠠄跋趼跰𠣞軔輸𨗒𨗭邔郱鄑𨜮鄛鈸鋗鋘" ++
    "鉼鏹鐕𨯺開䦕閷𨵷䧦雃嶲霣𩅅𩈚䩮䩶韠𩐊䪲𩒖頋頋頩𩖶飢䬳餩馧駂駾䯎𩬰鬒鱀鳽䳎䳭鵧𪃎䳸𪄅𪈎" ++
    "𪊑麻䵖黹黾鼅鼏鼖鼻𪘀")]

/-- Runs of characters replaced by a run of others: the first and the last one,
and the replacement of the first. -/
def shiftedReplacements : List (Nat × Nat × Nat) := [
  (0xc0, 0xd6, 0xe0), (0x391, 0x3a1, 0x3b1), (0x3a3, 0x3ab, 0x3c3),
  (0x400, 0x40f, 0x450), (0x410, 0x42f, 0x430), (0x531, 0x556, 0x561),
  (0x1c90, 0x1cba, 0x10d0), (0x1d33, 0x1d3a, 0x67), (0x1f08, 0x1f0f, 0x1f00),
  (0x1f28, 0x1f2f, 0x1f20), (0x1f38, 0x1f3f, 0x1f30), (0x1f68, 0x1f6f, 0x1f60),
  (0x2080, 0x2089, 0x30), (0x2460, 0x2468, 0x31), (0x24b6, 0x24cf, 0x61),
  (0x24d0, 0x24e9, 0x61), (0x2c00, 0x2c2f, 0x2c30), (0x3145, 0x314e, 0x1109),
  (0x314f, 0x3163, 0x1161), (0xab70, 0xabbf, 0x13a0), (0xff01, 0xff20, 0x21),
  (0xff21, 0xff3a, 0x61), (0xff3b, 0xff5e, 0x5b), (0xffb5, 0xffbe, 0x1109),
  (0x10400, 0x10427, 0x10428), (0x104b0, 0x104d3, 0x104d8), (0x10570, 0x1057a, 0x10597),
  (0x1057c, 0x1058a, 0x105a3), (0x10c80, 0x10cb2, 0x10cc0), (0x118a0, 0x118bf, 0x118c0),
  (0x16e40, 0x16e5f, 0x16e60), (0x1d400, 0x1d419, 0x61), (0x1d41a, 0x1d433, 0x61),
  (0x1d434, 0x1d44d, 0x61), (0x1d456, 0x1d467, 0x69), (0x1d468, 0x1d481, 0x61),
  (0x1d482, 0x1d49b, 0x61), (0x1d4ae, 0x1d4b5, 0x73), (0x1d4c5, 0x1d4cf, 0x70),
  (0x1d4d0, 0x1d4e9, 0x61), (0x1d4ea, 0x1d503, 0x61), (0x1d50d, 0x1d514, 0x6a),
  (0x1d51e, 0x1d537, 0x61), (0x1d552, 0x1d56b, 0x61), (0x1d56c, 0x1d585, 0x61),
  (0x1d586, 0x1d59f, 0x61), (0x1d5a0, 0x1d5b9, 0x61), (0x1d5ba, 0x1d5d3, 0x61),
  (0x1d5d4, 0x1d5ed, 0x61), (0x1d5ee, 0x1d607, 0x61), (0x1d608, 0x1d621, 0x61),
  (0x1d622, 0x1d63b, 0x61), (0x1d63c, 0x1d655, 0x61), (0x1d656, 0x1d66f, 0x61),
  (0x1d670, 0x1d689, 0x61), (0x1d68a, 0x1d6a3, 0x61), (0x1d6a8, 0x1d6b8, 0x3b1),
  (0x1d6c2, 0x1d6d2, 0x3b1), (0x1d6e2, 0x1d6f2, 0x3b1), (0x1d6fc, 0x1d70c, 0x3b1),
  (0x1d71c, 0x1d72c, 0x3b1), (0x1d736, 0x1d746, 0x3b1), (0x1d756, 0x1d766, 0x3b1),
  (0x1d770, 0x1d780, 0x3b1), (0x1d790, 0x1d7a0, 0x3b1), (0x1d7aa, 0x1d7ba, 0x3b1),
  (0x1d7ce, 0x1d7d7, 0x30), (0x1d7d8, 0x1d7e1, 0x30), (0x1d7e2, 0x1d7eb, 0x30),
  (0x1d7ec, 0x1d7f5, 0x30), (0x1d7f6, 0x1d7ff, 0x30), (0x1e030, 0x1e038, 0x430),
  (0x1e03c, 0x1e046, 0x43e), (0x1e051, 0x1e059, 0x430), (0x1e900, 0x1e921, 0x1e922),
  (0x1f130, 0x1f149, 0x61), (0x1fbf0, 0x1fbf9, 0x30)]

/-- Runs of characters replaced by several each; the replacements are separated
by line feeds. -/
def longReplacements : List (Nat × String) := [
  (0xa8, " \u0308"),
  (0xaf, " \u0304"),
  (0xb4, " \u0301"),
  (0xb8, " \u0327"),
  (0xbc, "1⁄4\n1⁄2\n3⁄4"),
  (0x130, "i\u0307\nı\nij\nij"),
  (0x13f, "l·\nl·"),
  (0x149, "ʼn"),
  (0x1c4, "dž\ndž\ndž\nlj\nlj\nlj\nnj\nnj\nnj"),
  (0x1f1, "dz\ndz\ndz"),
  (0x2d8, " \u0306\n \u0307\n \u030a\n \u0328\n \u0303\n \u030b"),
  (0x344, "\u0308\u0301"),
  (0x37a, " ι"),
  (0x384, " \u0301\n \u0308\u0301"),
  (0x587, "եւ"),
  (0x675, "\u0627\u0674\n\u0648\u0674\n\u06c7\u0674\n\u064a\u0674"),
  (0x958, "क\u093c\nख\u093c\nग\u093c\nज\u093c\nड\u093c\nढ\u093c\nफ\u093c\nय\u093c"),
  (0x9dc, "ড\u09bc\nঢ\u09bc"),
  (0x9df, "য\u09bc"),
  (0xa33, "ਲ\u0a3c"),
  (0xa36, "ਸ\u0a3c"),
  (0xa59, "ਖ\u0a3c\nਗ\u0a3c\nਜ\u0a3c"),
  (0xa5e, "ਫ\u0a3c"),
  (0xb5c, "ଡ\u0b3c\nଢ\u0b3c"),
  (0xe33, "\u0e4dา"),
  (0xeb3, "\u0ecdາ"),
  (0xedc, "ຫນ\nຫມ"),
  (0xf43, "ག\u0fb7"),
  (0xf4d, "ཌ\u0fb7"),
  (0xf52, "ད\u0fb7"),
  (0xf57, "བ\u0fb7"),
  (0xf5c, "ཛ\u0fb7"),
  (0xf69, "ཀ\u0fb5"),
  (0xf73, "\u0f71\u0f72\n\u0f74\n\u0f71\u0f74\n\u0fb2\u0f80\n\u0fb2\u0f71\u0f80\n\u0fb3\u0f80\n" ++
    "\u0fb3\u0f71\u0f80"),
  (0xf81, "\u0f71\u0f80"),
  (0xf93, "\u0f92\u0fb7"),
  (0xf9d, "\u0f9c\u0fb7"),
  (0xfa2, "\u0fa1\u0fb7"),
  (0xfa7, "\u0fa6\u0fb7"),
  (0xfac, "\u0fab\u0fb7"),
  (0xfb9, "\u0f90\u0fb5"),
  (0x1e9a, "aʾ"),
  (0x1f80, "ἀι\nἁι\nἂι\nἃι\nἄι\nἅι\nἆι\nἇι\nἀι\nἁι\nἂι\nἃι\nἄι\nἅι\nἆι\nἇι\nἠι\nἡι\nἢι\nἣι\nἤι\n" ++
    "ἥι\nἦι\nἧι\nἠι\nἡι\nἢι\nἣι\nἤι\nἥι\nἦι\nἧι\nὠι\nὡι\nὢι\nὣι\nὤι\nὥι\nὦι\nὧι\nὠι\nὡι\n" ++
    "ὢι\nὣι\nὤι\nὥι\nὦι\nὧι"),
  (0x1fb2, "ὰι\nαι\nάι"),
  (0x1fb7, "ᾶι"),
  (0x1fbc, "αι\n \u0313\nι\n \u0313\n \u0342\n \u0308\u0342\nὴι\nηι\nήι"),
  (0x1fc7, "ῆι"),
  (0x1fcc, "ηι\n \u0313\u0300\n \u0313\u0301\n \u0313\u0342"),
  (0x1fdd, " \u0314\u0300\n \u0314\u0301\n \u0314\u0342"),
  (0x1fed, " \u0308\u0300\n \u0308\u0301"),
  (0x1ff2, "ὼι\nωι\nώι"),
  (0x1ff7, "ῶι"),
  (0x1ffc, "ωι\n \u0301\n \u0314"),
  (0x2017, " \u0333"),
  (0x2033, "′′\n′′′\n‵\n‵‵\n‵‵‵"),
  (0x203c, "!!\n‽\n \u0305"),
  (0x2047, "??\n?!\n!?"),
  (0x2057, "′′′′"),
  (0x20a8, "rs"),
  (0x2100, "a/c\na/s\nc\n°c\n℄\nc/o\nc/u"),
  (0x2109, "°f"),
  (0x2116, "no"),
  (0x2120, "sm\ntel\ntm"),
  (0x213b, "fax"),
  (0x2150, "1⁄7\n1⁄9\n1⁄10\n1⁄3\n2⁄3\n1⁄5\n2⁄5\n3⁄5\n4⁄5\n1⁄6\n5⁄6\n1⁄8\n3⁄8\n5⁄8\n7⁄8\n1⁄\ni\n" ++
    "ii\niii\niv\nv\nvi\nvii\nviii\nix\nx\nxi\nxii"),
  (0x2171, "ii\niii\niv\nv\nvi\nvii\nviii\nix\nx\nxi\nxii"),
  (0x2189, "0⁄3"),
  (0x222c, "∫∫\n∫∫∫\n∮\n∮∮\n∮∮∮"),
  (0x2469, "10\n11\n12\n13\n14\n15\n16\n17\n18\n19\n20\n(1)\n(2)\n(3)\n(4)\n(5)\n(6)\n(7)\n(8)\n" ++
    "(9)\n(10)\n(11)\n(12)\n(13)\n(14)\n(15)\n(16)\n(17)\n(18)\n(19)\n(20)"),
  (0x249c, "(a)\n(b)\n(c)\n(d)\n(e)\n(f)\n(g)\n(h)\n(i)\n(j)\n(k)\n(l)\n(m)\n(n)\n(o)\n(p)\n" ++
    "(q)\n(r)\n(s)\n(t)\n(u)\n(v)\n(w)\n(x)\n(y)\n(z)"),
  (0x2a0c, "∫∫∫∫"),
  (0x2a74, "::=\n==\n==="),
  (0x2adc, "⫝\u0338"),
  (0x309b, " \u3099\n \u309a"),
  (0x309f, "より"),
  (0x30ff, "コト"),
  (0x3200, "(ᄀ)\n(ᄂ)\n(ᄃ)\n(ᄅ)\n(ᄆ)\n(ᄇ)\n(ᄉ)\n(ᄋ)\n(ᄌ)\n(ᄎ)\n(ᄏ)\n(ᄐ)\n(ᄑ)\n(ᄒ)\n" ++
    "(가)\n(나)\n(다)\n(라)\n(마)\n(바)\n(사)\n(아)\n(자)\n(차)\n(카)\n(타)\n(파)\n(하)\n" ++
    "(주)\n(오전)\n(오후)"),
  (0x3220, "(一)\n(二)\n(三)\n(四)\n(五)\n(六)\n(七)\n(八)\n(九)\n(十)\n(月)\n(火)\n(水)\n(木)\n" ++
    "(金)\n(土)\n(日)\n(株)\n(有)\n(社)\n(名)\n(特)\n(財)\n(祝)\n(労)\n(代)\n(呼)\n(学)\n" ++
    "(監)\n(企)\n(資)\n(協)\n(祭)\n(休)\n(自)\n(至)"),
  (0x3250, "pte\n21\n22\n23\n24\n25\n26\n27\n28\n29\n30\n31\n32\n33\n34\n35"),
  (0x327c, "참고\n주의"),
  (0x32b1, "36\n37\n38\n39\n40\n41\n42\n43\n44\n45\n46\n47\n48\n49\n50\n1月\n2月\n3月\n4月\n" ++
    "5月\n6月\n7月\n8月\n9月\n10月\n11月\n12月\nhg\nerg\nev\nltd"),
  (0x32ff, "令和\nアパート\nアルファ\nアンペア\nアール\nイニング\nインチ\nウォン\nエスクード\n" ++
    "エーカー\nオンス\nオーム\nカイリ\nカラット\nカロリー\nガロン\nガンマ\nギガ\nギニー\n" ++
    "キュリー\nギルダー\nキロ\nキログラム\nキロメートル\nキロワット\nグラム\nグラムトン\n" ++
    "クルゼイロ\nクローネ\nケース\nコルナ\nコーポ\nサイクル\nサンチーム\nシリング\n" ++
    "センチ\nセント\nダース\nデシ\nドル\nトン\nナノ\nノット\nハイツ\nパーセント\nパーツ\n" ++
    "バーレル\nピアストル\nピクル\nピコ\nビル\nファラッド\nフィート\nブッシェル\nフラン\n" ++
    "ヘクタール\nペソ\nペニヒ\nヘルツ\nペンス\nページ\nベータ\nポイント\nボルト\nホン\n" ++
    "ポンド\nホール\nホーン\nマイクロ\nマイル\nマッハ\nマルク\nマンション\nミクロン\n" ++
    "ミリ\nミリバール\nメガ\nメガトン\nメートル\nヤード\nヤール\nユアン\nリットル\nリラ\n" ++
    "ルピー\nルーブル\nレム\nレントゲン\nワット\n0点\n1点\n2点\n3点\n4点\n5点\n6点\n7点\n" ++
    "8点\n9点\n10点\n11点\n12点\n13点\n14点\n15点\n16点\n17点\n18点\n19点\n20点\n21点\n" ++
    "22点\n23点\n24点\nhpa\nda\nau\nbar\nov\npc\ndm\ndm2\ndm3\niu\n平成\n昭和\n大正\n" ++
    "明治\n株式会社\npa\nna\nμa\nma\nka\nkb\nmb\ngb\ncal\nkcal\npf\nnf\nμf\nμg\nmg\nkg\n" ++
    "hz\nkhz\nmhz\nghz\nthz\nμl\nml\ndl\nkl\nfm\nnm\nμm\nmm\ncm\nkm\nmm2\ncm2\nm2\nkm2\n" ++
    "mm3\ncm3\nm3\nkm3\nm∕s\nm∕s2\npa\nkpa\nmpa\ngpa\nrad\nrad∕s\nrad∕s2\nps\nns\nμs\n" ++
    "ms\npv\nnv\nμv\nmv\nkv\nmv\npw\nnw\nμw\nmw\nkw\nmw\nkω\nmω"),
  (0x33c3, "bq\ncc\ncd\nc∕kg"),
  (0x33c8, "db\ngy\nha\nhp\nin\nkk\nkm\nkt\nlm\nln\nlog\nlx\nmb\nmil\nmol\nph"),
  (0x33d9, "ppm\npr\nsr\nsv\nwb\nv∕m\na∕m\n1日\n2日\n3日\n4日\n5日\n6日\n7日\n8日\n9日\n10日\n" ++
    "11日\n12日\n13日\n14日\n15日\n16日\n17日\n18日\n19日\n20日\n21日\n22日\n23日\n24日\n" ++
    "25日\n26日\n27日\n28日\n29日\n30日\n31日\ngal"),
  (0xfb00, "ff\nfi\nfl\nffi\nffl\nst\nst"),
  (0xfb13, "մն\nմե\nմի\nվն\nմխ"),
  (0xfb1d, "\u05d9\u05b4\n\ufb1e\n\u05f2\u05b7"),
  (0xfb2a, "\u05e9\u05c1\n\u05e9\u05c2\n\u05e9\u05bc\u05c1\n\u05e9\u05bc\u05c2\n\u05d0\u05b7\n" ++
    "\u05d0\u05b8\n\u05d0\u05bc\n\u05d1\u05bc\n\u05d2\u05bc\n\u05d3\u05bc\n\u05d4\u05bc\n" ++
    "\u05d5\u05bc\n\u05d6\u05bc"),
  (0xfb38, "\u05d8\u05bc\n\u05d9\u05bc\n\u05da\u05bc\n\u05db\u05bc\n\u05dc\u05bc"),
  (0xfb3e, "\u05de\u05bc"),
  (0xfb40, "\u05e0\u05bc\n\u05e1\u05bc"),
  (0xfb43, "\u05e3\u05bc\n\u05e4\u05bc"),
  (0xfb46, "\u05e6\u05bc\n\u05e7\u05bc\n\u05e8\u05bc\n\u05e9\u05bc\n\u05ea\u05bc\n\u05d5\u05b9\n" ++
    "\u05d1\u05bf\n\u05db\u05bf\n\u05e4\u05bf\n\u05d0\u05dc"),
  (0xfbdd, "\u06c7\u0674"),
  (0xfbea, "\u0626\u0627\n\u0626\u0627\n\u0626\u06d5\n\u0626\u06d5\n\u0626\u0648\n\u0626\u0648\n" ++
    "\u0626\u06c7\n\u0626\u06c7\n\u0626\u06c6\n\u0626\u06c6\n\u0626\u06c8\n\u0626\u06c8\n" ++
    "\u0626\u06d0\n\u0626\u06d0\n\u0626\u06d0\n\u0626\u0649\n\u0626\u0649\n\u0626\u0649"),
  (0xfc00, "\u0626\u062c\n\u0626\u062d\n\u0626\u0645\n\u0626\u0649\n\u0626\u064a\n\u0628\u062c\n" ++
    "\u0628\u062d\n\u0628\u062e\n\u0628\u0645\n\u0628\u0649\n\u0628\u064a\n\u062a\u062c\n" ++
    "\u062a\u062d\n\u062a\u062e\n\u062a\u0645\n\u062a\u0649\n\u062a\u064a\n\u062b\u062c\n" ++
    "\u062b\u0645\n\u062b\u0649\n\u062b\u064a\n\u062c\u062d\n\u062c\u0645\n\u062d\u062c\n" ++
    "\u062d\u0645\n\u062e\u062c\n\u062e\u062d\n\u062e\u0645\n\u0633\u062c\n\u0633\u062d\n" ++
    "\u0633\u062e\n\u0633\u0645\n\u0635\u062d\n\u0635\u0645\n\u0636\u062c\n\u0636\u062d\n" ++
    "\u0636\u062e\n\u0636\u0645\n\u0637\u062d\n\u0637\u0645\n\u0638\u0645\n\u0639\u062c\n" ++
    "\u0639\u0645\n\u063a\u062c\n\u063a\u0645\n\u0641\u062c\n\u0641\u062d\n\u0641\u062e\n" ++
    "\u0641\u0645\n\u0641\u0649\n\u0641\u064a\n\u0642\u062d\n\u0642\u0645\n\u0642\u0649\n" ++
    "\u0642\u064a\n\u0643\u0627\n\u0643\u062c\n\u0643\u062d\n\u0643\u062e\n\u0643\u0644\n" ++
    "\u0643\u0645\n\u0643\u0649\n\u0643\u064a\n\u0644\u062c\n\u0644\u062d\n\u0644\u062e\n" ++
    "\u0644\u0645\n\u0644\u0649\n\u0644\u064a\n\u0645\u062c\n\u0645\u062d\n\u0645\u062e\n" ++
    "\u0645\u0645\n\u0645\u0649\n\u0645\u064a\n\u0646\u062c\n\u0646\u062d\n\u0646\u062e\n" ++
    "\u0646\u0645\n\u0646\u0649\n\u0646\u064a\n\u0647\u062c\n\u0647\u0645\n\u0647\u0649\n" ++
    "\u0647\u064a\n\u064a\u062c\n\u064a\u062d\n\u064a\u062e\n\u064a\u0645\n\u064a\u0649\n" ++
    "\u064a\u064a\n\u0630\u0670\n\u0631\u0670\n\u0649\u0670\n \u064c\u0651\n" ++
    " \u064d\u0651\n \u064e\u0651\n \u064f\u0651\n \u0650\u0651\n \u0651\u0670\n" ++
    "\u0626\u0631\n\u0626\u0632\n\u0626\u0645\n\u0626\u0646\n\u0626\u0649\n\u0626\u064a\n" ++
    "\u0628\u0631\n\u0628\u0632\n\u0628\u0645\n\u0628\u0646\n\u0628\u0649\n\u0628\u064a\n" ++
    "\u062a\u0631\n\u062a\u0632\n\u062a\u0645\n\u062a\u0646\n\u062a\u0649\n\u062a\u064a\n" ++
    "\u062b\u0631\n\u062b\u0632\n\u062b\u0645\n\u062b\u0646\n\u062b\u0649\n\u062b\u064a\n" ++
    "\u0641\u0649\n\u0641\u064a\n\u0642\u0649\n\u0642\u064a\n\u0643\u0627\n\u0643\u0644\n" ++
    "\u0643\u0645\n\u0643\u0649\n\u0643\u064a\n\u0644\u0645\n\u0644\u0649\n\u0644\u064a\n" ++
    "\u0645\u0627\n\u0645\u0645\n\u0646\u0631\n\u0646\u0632\n\u0646\u0645\n\u0646\u0646\n" ++
    "\u0646\u0649\n\u0646\u064a\n\u0649\u0670\n\u064a\u0631\n\u064a\u0632\n\u064a\u0645\n" ++
    "\u064a\u0646\n\u064a\u0649\n\u064a\u064a\n\u0626\u062c\n\u0626\u062d\n\u0626\u062e\n" ++
    "\u0626\u0645\n\u0626\u0647\n\u0628\u062c\n\u0628\u062d\n\u0628\u062e\n\u0628\u0645\n" ++
    "\u0628\u0647\n\u062a\u062c\n\u062a\u062d\n\u062a\u062e\n\u062a\u0645\n\u062a\u0647\n" ++
    "\u062b\u0645\n\u062c\u062d\n\u062c\u0645\n\u062d\u062c\n\u062d\u0645\n\u062e\u062c\n" ++
    "\u062e\u0645\n\u0633\u062c\n\u0633\u062d\n\u0633\u062e\n\u0633\u0645\n\u0635\u062d\n" ++
    "\u0635\u062e\n\u0635\u0645\n\u0636\u062c\n\u0636\u062d\n\u0636\u062e\n\u0636\u0645\n" ++
    "\u0637\u062d\n\u0638\u0645\n\u0639\u062c\n\u0639\u0645\n\u063a\u062c\n\u063a\u0645\n" ++
    "\u0641\u062c\n\u0641\u062d\n\u0641\u062e\n\u0641\u0645\n\u0642\u062d\n\u0642\u0645\n" ++
    "\u0643\u062c\n\u0643\u062d\n\u0643\u062e\n\u0643\u0644\n\u0643\u0645\n\u0644\u062c\n" ++
    "\u0644\u062d\n\u0644\u062e\n\u0644\u0645\n\u0644\u0647\n\u0645\u062c\n\u0645\u062d\n" ++
    "\u0645\u062e\n\u0645\u0645\n\u0646\u062c\n\u0646\u062d\n\u0646\u062e\n\u0646\u0645\n" ++
    "\u0646\u0647\n\u0647\u062c\n\u0647\u0645\n\u0647\u0670\n\u064a\u062c\n\u064a\u062d\n" ++
    "\u064a\u062e\n\u064a\u0645\n\u064a\u0647\n\u0626\u0645\n\u0626\u0647\n\u0628\u0645\n" ++
    "\u0628\u0647\n\u062a\u0645\n\u062a\u0647\n\u062b\u0645\n\u062b\u0647\n\u0633\u0645\n" ++
    "\u0633\u0647\n\u0634\u0645\n\u0634\u0647\n\u0643\u0644\n\u0643\u0645\n\u0644\u0645\n" ++
    "\u0646\u0645\n\u0646\u0647\n\u064a\u0645\n\u064a\u0647\n\u0640\u064e\u0651\n" ++
    "\u0640\u064f\u0651\n\u0640\u0650\u0651\n\u0637\u0649\n\u0637\u064a\n\u0639\u0649\n" ++
    "\u0639\u064a\n\u063a\u0649\n\u063a\u064a\n\u0633\u0649\n\u0633\u064a\n\u0634\u0649\n" ++
    "\u0634\u064a\n\u062d\u0649\n\u062d\u064a\n\u062c\u0649\n\u062c\u064a\n\u062e\u0649\n" ++
    "\u062e\u064a\n\u0635\u0649\n\u0635\u064a\n\u0636\u0649\n\u0636\u064a\n\u0634\u062c\n" ++
    "\u0634\u062d\n\u0634\u062e\n\u0634\u0645\n\u0634\u0631\n\u0633\u0631\n\u0635\u0631\n" ++
    "\u0636\u0631\n\u0637\u0649\n\u0637\u064a\n\u0639\u0649\n\u0639\u064a\n\u063a\u0649\n" ++
    "\u063a\u064a\n\u0633\u0649\n\u0633\u064a\n\u0634\u0649\n\u0634\u064a\n\u062d\u0649\n" ++
    "\u062d\u064a\n\u062c\u0649\n\u062c\u064a\n\u062e\u0649\n\u062e\u064a\n\u0635\u0649\n" ++
    "\u0635\u064a\n\u0636\u0649\n\u0636\u064a\n\u0634\u062c\n\u0634\u062d\n\u0634\u062e\n" ++
    "\u0634\u0645\n\u0634\u0631\n\u0633\u0631\n\u0635\u0631\n\u0636\u0631\n\u0634\u062c\n" ++
    "\u0634\u062d\n\u0634\u062e\n\u0634\u0645\n\u0633\u0647\n\u0634\u0647\n\u0637\u0645\n" ++
    "\u0633\u062c\n\u0633\u062d\n\u0633\u062e\n\u0634\u062c\n\u0634\u062d\n\u0634\u062e\n" ++
    "\u0637\u0645\n\u0638\u0645\n\u0627\u064b\n\u0627\u064b"),
  (0xfd50, "\u062a\u062c\u0645\n\u062a\u062d\u062c\n\u062a\u062d\u062c\n\u062a\u062d\u0645\n" ++
    "\u062a\u062e\u0645\n\u062a\u0645\u062c\n\u062a\u0645\u062d\n\u062a\u0645\u062e\n" ++
    "\u062c\u0645\u062d\n\u062c\u0645\u062d\n\u062d\u0645\u064a\n\u062d\u0645\u0649\n" ++
    "\u0633\u062d\u062c\n\u0633\u062c\u062d\n\u0633\u062c\u0649\n\u0633\u0645\u062d\n" ++
    "\u0633\u0645\u062d\n\u0633\u0645\u062c\n\u0633\u0645\u0645\n\u0633\u0645\u0645\n" ++
    "\u0635\u062d\u062d\n\u0635\u062d\u062d\n\u0635\u0645\u0645\n\u0634\u062d\u0645\n" ++
    "\u0634\u062d\u0645\n\u0634\u062c\u064a\n\u0634\u0645\u062e\n\u0634\u0645\u062e\n" ++
    "\u0634\u0645\u0645\n\u0634\u0645\u0645\n\u0636\u062d\u0649\n\u0636\u062e\u0645\n" ++
    "\u0636\u062e\u0645\n\u0637\u0645\u062d\n\u0637\u0645\u062d\n\u0637\u0645\u0645\n" ++
    "\u0637\u0645\u064a\n\u0639\u062c\u0645\n\u0639\u0645\u0645\n\u0639\u0645\u0645\n" ++
    "\u0639\u0645\u0649\n\u063a\u0645\u0645\n\u063a\u0645\u064a\n\u063a\u0645\u0649\n" ++
    "\u0641\u062e\u0645\n\u0641\u062e\u0645\n\u0642\u0645\u062d\n\u0642\u0645\u0645\n" ++
    "\u0644\u062d\u0645\n\u0644\u062d\u064a\n\u0644\u062d\u0649\n\u0644\u062c\u062c\n" ++
    "\u0644\u062c\u062c\n\u0644\u062e\u0645\n\u0644\u062e\u0645\n\u0644\u0645\u062d\n" ++
    "\u0644\u0645\u062d\n\u0645\u062d\u062c\n\u0645\u062d\u0645\n\u0645\u062d\u064a\n" ++
    "\u0645\u062c\u062d\n\u0645\u062c\u0645\n\u0645\u062e\u062c\n\u0645\u062e\u0645"),
  (0xfd92, "\u0645\u062c\u062e\n\u0647\u0645\u062c\n\u0647\u0645\u0645\n\u0646\u062d\u0645\n" ++
    "\u0646\u062d\u0649\n\u0646\u062c\u0645\n\u0646\u062c\u0645\n\u0646\u062c\u0649\n" ++
    "\u0646\u0645\u064a\n\u0646\u0645\u0649\n\u064a\u0645\u0645\n\u064a\u0645\u0645\n" ++
    "\u0628\u062e\u064a\n\u062a\u062c\u064a\n\u062a\u062c\u0649\n\u062a\u062e\u064a\n" ++
    "\u062a\u062e\u0649\n\u062a\u0645\u064a\n\u062a\u0645\u0649\n\u062c\u0645\u064a\n" ++
    "\u062c\u062d\u0649\n\u062c\u0645\u0649\n\u0633\u062e\u0649\n\u0635\u062d\u064a\n" ++
    "\u0634\u062d\u064a\n\u0636\u062d\u064a\n\u0644\u062c\u064a\n\u0644\u0645\u064a\n" ++
    "\u064a\u062d\u064a\n\u064a\u062c\u064a\n\u064a\u0645\u064a\n\u0645\u0645\u064a\n" ++
    "\u0642\u0645\u064a\n\u0646\u062d\u064a\n\u0642\u0645\u062d\n\u0644\u062d\u0645\n" ++
    "\u0639\u0645\u064a\n\u0643\u0645\u064a\n\u0646\u062c\u062d\n\u0645\u062e\u064a\n" ++
    "\u0644\u062c\u0645\n\u0643\u0645\u0645\n\u0644\u062c\u0645\n\u0646\u062c\u062d\n" ++
    "\u062c\u062d\u064a\n\u062d\u062c\u064a\n\u0645\u062c\u064a\n\u0641\u0645\u064a\n" ++
    "\u0628\u062d\u064a\n\u0643\u0645\u0645\n\u0639\u062c\u0645\n\u0635\u0645\u0645\n" ++
    "\u0633\u062e\u064a\n\u0646\u062c\u064a"),
  (0xfdf0, "\u0635\u0644\u06d2\n\u0642\u0644\u06d2\n\u0627\u0644\u0644\u0647\n" ++
    "\u0627\u0643\u0628\u0631\n\u0645\u062d\u0645\u062f\n\u0635\u0644\u0639\u0645\n" ++
    "\u0631\u0633\u0648\u0644\n\u0639\u0644\u064a\u0647\n\u0648\u0633\u0644\u0645\n" ++
    "\u0635\u0644\u0649\n" ++
    "\u0635\u0644\u0649 \u0627\u0644\u0644\u0647 \u0639\u0644\u064a\u0647 \u0648\u0633\u0644\u0645\n" ++
    "\u062c\u0644 \u062c\u0644\u0627\u0644\u0647\n\u0631\u06cc\u0627\u0644"),
  (0xfe49, " \u0305\n \u0305\n \u0305\n \u0305"),
  (0xfe70, " \u064b\n\u0640\u064b\n \u064c\n\ufe73\n \u064d"),
  (0xfe76, " \u064e\n\u0640\u064e\n \u064f\n\u0640\u064f\n \u0650\n\u0640\u0650\n \u0651\n" ++
    "\u0640\u0651\n \u0652\n\u0640\u0652"),
  (0xfef5, "\u0644\u0622\n\u0644\u0622\n\u0644\u0623\n\u0644\u0623\n\u0644\u0625\n\u0644\u0625\n" ++
    "\u0644\u0627\n\u0644\u0627"),
  (0xffe3, " \u0304"),
  (0x1d15e, "𝅗𝅥\n𝅘𝅥\n𝅘𝅥𝅮\n𝅘𝅥𝅯\n𝅘𝅥𝅰\n𝅘𝅥𝅱\n𝅘𝅥𝅲"),
  (0x1d1bb, "𝆹𝅥\n𝆺𝅥\n𝆹𝅥𝅮\n𝆺𝅥𝅮\n𝆹𝅥𝅯\n𝆺𝅥𝅯"),
  (0x1f101, "0,\n1,\n2,\n3,\n4,\n5,\n6,\n7,\n8,\n9,"),
  (0x1f110, "(a)\n(b)\n(c)\n(d)\n(e)\n(f)\n(g)\n(h)\n(i)\n(j)\n(k)\n(l)\n(m)\n(n)\n(o)\n(p)\n" ++
    "(q)\n(r)\n(s)\n(t)\n(u)\n(v)\n(w)\n(x)\n(y)\n(z)\n〔s〕"),
  (0x1f12d, "cd\nwz"),
  (0x1f14a, "hv\nmv\nsd\nss\nppv\nwc"),
  (0x1f16a, "mc\nmd\nmr"),
  (0x1f190, "dj"),
  (0x1f200, "ほか\nココ"),
  (0x1f240, "〔本〕\n〔三〕\n〔二〕\n〔安〕\n〔点〕\n〔打〕\n〔盗〕\n〔勝〕\n〔敗〕")]

/-- What becomes of a character of a host name. -/
inductive HostMapping where
  | kept
  | replaced (characters : List Char)
  | dropped
  | refused
  deriving DecidableEq, Repr

/-- The replacement of a character, if there is one. -/
def replacement? (c : Char) : Option (List Char) :=
  let n := c.toNat
  let long := longReplacements.findSome? fun (first, text) =>
    if first ≤ n then ((text.splitOn "\n")[n - first]?).map String.toList else none
  let single := singleReplacements.findSome? fun (first, text) =>
    if first ≤ n then (text.toList[n - first]?).map fun d => [d] else none
  let shifted := (shiftedReplacements.find? fun (first, last, _) => first ≤ n && n ≤ last).map
    fun (first, _, target) => [Char.ofNat (target + (n - first))]
  ((shifted.or long).or single).filter (· ≠ [c])

/-- Looks a character up. -/
def HostMapping.ofChar (c : Char) : HostMapping :=
  if c.toNat < 0x80 then
    if c.isUpper then .replaced [c.toLower] else .kept
  else if droppedCharacters.contains c then .dropped
  else match replacement? c with
    | some characters => .replaced characters
    | none => if hostCharacters.contains c then .kept else .refused

end PullReview.Unicode
