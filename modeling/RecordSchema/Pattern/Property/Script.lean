namespace RecordSchema

/-!
# Scripts

Every character belongs to one script.  A table lists the code points of a
script as runs in hexadecimal.
-/

namespace Pattern

/-- Adlam. -/
def scriptAdlam : List String :=
  ["1e900-1e94b 1e950-1e959 1e95e-1e95f"]

/-- Caucasian Albanian. -/
def scriptCaucasianAlbanian : List String :=
  ["10530-10563 1056f"]

/-- Ahom. -/
def scriptAhom : List String :=
  ["11700-1171a 1171d-1172b 11730-11746"]

/-- Arabic. -/
def scriptArabic : List String :=
  [
    "600-604 606-60b 60d-61a 61c-61e 620-63f 641-64a 656-66f 671-6dc 6de-6ff 750-77f 870-88e",
    "890-891 897-8e1 8e3-8ff fb50-fbc2 fbd3-fd3d fd40-fd8f fd92-fdc7 fdcf fdf0-fdff fe70-fe74",
    "fe76-fefc 10e60-10e7e 10ec2-10ec4 10efc-10eff 1ee00-1ee03 1ee05-1ee1f 1ee21-1ee22 1ee24",
    "1ee27 1ee29-1ee32 1ee34-1ee37 1ee39 1ee3b 1ee42 1ee47 1ee49 1ee4b 1ee4d-1ee4f 1ee51-1ee52",
    "1ee54 1ee57 1ee59 1ee5b 1ee5d 1ee5f 1ee61-1ee62 1ee64 1ee67-1ee6a 1ee6c-1ee72 1ee74-1ee77",
    "1ee79-1ee7c 1ee7e 1ee80-1ee89 1ee8b-1ee9b 1eea1-1eea3 1eea5-1eea9 1eeab-1eebb 1eef0-1eef1"
  ]

/-- Imperial Aramaic. -/
def scriptImperialAramaic : List String :=
  ["10840-10855 10857-1085f"]

/-- Armenian. -/
def scriptArmenian : List String :=
  ["531-556 559-58a 58d-58f fb13-fb17"]

/-- Avestan. -/
def scriptAvestan : List String :=
  ["10b00-10b35 10b39-10b3f"]

/-- Balinese. -/
def scriptBalinese : List String :=
  ["1b00-1b4c 1b4e-1b7f"]

/-- Bamum. -/
def scriptBamum : List String :=
  ["a6a0-a6f7 16800-16a38"]

/-- Bassa Vah. -/
def scriptBassaVah : List String :=
  ["16ad0-16aed 16af0-16af5"]

/-- Batak. -/
def scriptBatak : List String :=
  ["1bc0-1bf3 1bfc-1bff"]

/-- Bengali. -/
def scriptBengali : List String :=
  [
    "980-983 985-98c 98f-990 993-9a8 9aa-9b0 9b2 9b6-9b9 9bc-9c4 9c7-9c8 9cb-9ce 9d7 9dc-9dd",
    "9df-9e3 9e6-9fe"
  ]

/-- Bhaiksuki. -/
def scriptBhaiksuki : List String :=
  ["11c00-11c08 11c0a-11c36 11c38-11c45 11c50-11c6c"]

/-- Bopomofo. -/
def scriptBopomofo : List String :=
  ["2ea-2eb 3105-312f 31a0-31bf"]

/-- Brahmi. -/
def scriptBrahmi : List String :=
  ["11000-1104d 11052-11075 1107f"]

/-- Braille. -/
def scriptBraille : List String :=
  ["2800-28ff"]

/-- Buginese. -/
def scriptBuginese : List String :=
  ["1a00-1a1b 1a1e-1a1f"]

/-- Buhid. -/
def scriptBuhid : List String :=
  ["1740-1753"]

/-- Chakma. -/
def scriptChakma : List String :=
  ["11100-11134 11136-11147"]

/-- Canadian Aboriginal. -/
def scriptCanadianAboriginal : List String :=
  ["1400-167f 18b0-18f5 11ab0-11abf"]

/-- Carian. -/
def scriptCarian : List String :=
  ["102a0-102d0"]

/-- Cham. -/
def scriptCham : List String :=
  ["aa00-aa36 aa40-aa4d aa50-aa59 aa5c-aa5f"]

/-- Cherokee. -/
def scriptCherokee : List String :=
  ["13a0-13f5 13f8-13fd ab70-abbf"]

/-- Chorasmian. -/
def scriptChorasmian : List String :=
  ["10fb0-10fcb"]

/-- Coptic. -/
def scriptCoptic : List String :=
  ["3e2-3ef 2c80-2cf3 2cf9-2cff"]

/-- Cypro Minoan. -/
def scriptCyproMinoan : List String :=
  ["12f90-12ff2"]

/-- Cypriot. -/
def scriptCypriot : List String :=
  ["10800-10805 10808 1080a-10835 10837-10838 1083c 1083f"]

/-- Cyrillic. -/
def scriptCyrillic : List String :=
  ["400-484 487-52f 1c80-1c8a 1d2b 1d78 2de0-2dff a640-a69f fe2e-fe2f 1e030-1e06d 1e08f"]

/-- Devanagari. -/
def scriptDevanagari : List String :=
  ["900-950 955-963 966-97f a8e0-a8ff 11b00-11b09"]

/-- Dives Akuru. -/
def scriptDivesAkuru : List String :=
  ["11900-11906 11909 1190c-11913 11915-11916 11918-11935 11937-11938 1193b-11946 11950-11959"]

/-- Dogra. -/
def scriptDogra : List String :=
  ["11800-1183b"]

/-- Deseret. -/
def scriptDeseret : List String :=
  ["10400-1044f"]

/-- Duployan. -/
def scriptDuployan : List String :=
  ["1bc00-1bc6a 1bc70-1bc7c 1bc80-1bc88 1bc90-1bc99 1bc9c-1bc9f"]

/-- Egyptian Hieroglyphs. -/
def scriptEgyptianHieroglyphs : List String :=
  ["13000-13455 13460-143fa"]

/-- Elbasan. -/
def scriptElbasan : List String :=
  ["10500-10527"]

/-- Elymaic. -/
def scriptElymaic : List String :=
  ["10fe0-10ff6"]

/-- Ethiopic. -/
def scriptEthiopic : List String :=
  [
    "1200-1248 124a-124d 1250-1256 1258 125a-125d 1260-1288 128a-128d 1290-12b0 12b2-12b5",
    "12b8-12be 12c0 12c2-12c5 12c8-12d6 12d8-1310 1312-1315 1318-135a 135d-137c 1380-1399",
    "2d80-2d96 2da0-2da6 2da8-2dae 2db0-2db6 2db8-2dbe 2dc0-2dc6 2dc8-2dce 2dd0-2dd6 2dd8-2dde",
    "ab01-ab06 ab09-ab0e ab11-ab16 ab20-ab26 ab28-ab2e 1e7e0-1e7e6 1e7e8-1e7eb 1e7ed-1e7ee",
    "1e7f0-1e7fe"
  ]

/-- Garay. -/
def scriptGaray : List String :=
  ["10d40-10d65 10d69-10d85 10d8e-10d8f"]

/-- Georgian. -/
def scriptGeorgian : List String :=
  ["10a0-10c5 10c7 10cd 10d0-10fa 10fc-10ff 1c90-1cba 1cbd-1cbf 2d00-2d25 2d27 2d2d"]

/-- Glagolitic. -/
def scriptGlagolitic : List String :=
  ["2c00-2c5f 1e000-1e006 1e008-1e018 1e01b-1e021 1e023-1e024 1e026-1e02a"]

/-- Gunjala Gondi. -/
def scriptGunjalaGondi : List String :=
  ["11d60-11d65 11d67-11d68 11d6a-11d8e 11d90-11d91 11d93-11d98 11da0-11da9"]

/-- Masaram Gondi. -/
def scriptMasaramGondi : List String :=
  ["11d00-11d06 11d08-11d09 11d0b-11d36 11d3a 11d3c-11d3d 11d3f-11d47 11d50-11d59"]

/-- Gothic. -/
def scriptGothic : List String :=
  ["10330-1034a"]

/-- Grantha. -/
def scriptGrantha : List String :=
  [
    "11300-11303 11305-1130c 1130f-11310 11313-11328 1132a-11330 11332-11333 11335-11339",
    "1133c-11344 11347-11348 1134b-1134d 11350 11357 1135d-11363 11366-1136c 11370-11374"
  ]

/-- Greek. -/
def scriptGreek : List String :=
  [
    "370-373 375-377 37a-37d 37f 384 386 388-38a 38c 38e-3a1 3a3-3e1 3f0-3ff 1d26-1d2a",
    "1d5d-1d61 1d66-1d6a 1dbf 1f00-1f15 1f18-1f1d 1f20-1f45 1f48-1f4d 1f50-1f57 1f59 1f5b 1f5d",
    "1f5f-1f7d 1f80-1fb4 1fb6-1fc4 1fc6-1fd3 1fd6-1fdb 1fdd-1fef 1ff2-1ff4 1ff6-1ffe 2126 ab65",
    "10140-1018e 101a0 1d200-1d245"
  ]

/-- Gujarati. -/
def scriptGujarati : List String :=
  [
    "a81-a83 a85-a8d a8f-a91 a93-aa8 aaa-ab0 ab2-ab3 ab5-ab9 abc-ac5 ac7-ac9 acb-acd ad0",
    "ae0-ae3 ae6-af1 af9-aff"
  ]

/-- Gurung Khema. -/
def scriptGurungKhema : List String :=
  ["16100-16139"]

/-- Gurmukhi. -/
def scriptGurmukhi : List String :=
  [
    "a01-a03 a05-a0a a0f-a10 a13-a28 a2a-a30 a32-a33 a35-a36 a38-a39 a3c a3e-a42 a47-a48",
    "a4b-a4d a51 a59-a5c a5e a66-a76"
  ]

/-- Hangul. -/
def scriptHangul : List String :=
  [
    "1100-11ff 302e-302f 3131-318e 3200-321e 3260-327e a960-a97c ac00-d7a3 d7b0-d7c6 d7cb-d7fb",
    "ffa0-ffbe ffc2-ffc7 ffca-ffcf ffd2-ffd7 ffda-ffdc"
  ]

/-- Han. -/
def scriptHan : List String :=
  [
    "2e80-2e99 2e9b-2ef3 2f00-2fd5 3005 3007 3021-3029 3038-303b 3400-4dbf 4e00-9fff f900-fa6d",
    "fa70-fad9 16fe2-16fe3 16ff0-16ff1 20000-2a6df 2a700-2b739 2b740-2b81d 2b820-2cea1",
    "2ceb0-2ebe0 2ebf0-2ee5d 2f800-2fa1d 30000-3134a 31350-323af"
  ]

/-- Hanunoo. -/
def scriptHanunoo : List String :=
  ["1720-1734"]

/-- Hatran. -/
def scriptHatran : List String :=
  ["108e0-108f2 108f4-108f5 108fb-108ff"]

/-- Hebrew. -/
def scriptHebrew : List String :=
  ["591-5c7 5d0-5ea 5ef-5f4 fb1d-fb36 fb38-fb3c fb3e fb40-fb41 fb43-fb44 fb46-fb4f"]

/-- Hiragana. -/
def scriptHiragana : List String :=
  ["3041-3096 309d-309f 1b001-1b11f 1b132 1b150-1b152 1f200"]

/-- Anatolian Hieroglyphs. -/
def scriptAnatolianHieroglyphs : List String :=
  ["14400-14646"]

/-- Pahawh Hmong. -/
def scriptPahawhHmong : List String :=
  ["16b00-16b45 16b50-16b59 16b5b-16b61 16b63-16b77 16b7d-16b8f"]

/-- Nyiakeng Puachue Hmong. -/
def scriptNyiakengPuachueHmong : List String :=
  ["1e100-1e12c 1e130-1e13d 1e140-1e149 1e14e-1e14f"]

/-- Old Hungarian. -/
def scriptOldHungarian : List String :=
  ["10c80-10cb2 10cc0-10cf2 10cfa-10cff"]

/-- Old Italic. -/
def scriptOldItalic : List String :=
  ["10300-10323 1032d-1032f"]

/-- Javanese. -/
def scriptJavanese : List String :=
  ["a980-a9cd a9d0-a9d9 a9de-a9df"]

/-- Kayah Li. -/
def scriptKayahLi : List String :=
  ["a900-a92d a92f"]

/-- Katakana. -/
def scriptKatakana : List String :=
  [
    "30a1-30fa 30fd-30ff 31f0-31ff 32d0-32fe 3300-3357 ff66-ff6f ff71-ff9d 1aff0-1aff3",
    "1aff5-1affb 1affd-1affe 1b000 1b120-1b122 1b155 1b164-1b167"
  ]

/-- Kawi. -/
def scriptKawi : List String :=
  ["11f00-11f10 11f12-11f3a 11f3e-11f5a"]

/-- Kharoshthi. -/
def scriptKharoshthi : List String :=
  [
    "10a00-10a03 10a05-10a06 10a0c-10a13 10a15-10a17 10a19-10a35 10a38-10a3a 10a3f-10a48",
    "10a50-10a58"
  ]

/-- Khmer. -/
def scriptKhmer : List String :=
  ["1780-17dd 17e0-17e9 17f0-17f9 19e0-19ff"]

/-- Khojki. -/
def scriptKhojki : List String :=
  ["11200-11211 11213-11241"]

/-- Khitan Small Script. -/
def scriptKhitanSmallScript : List String :=
  ["16fe4 18b00-18cd5 18cff"]

/-- Kannada. -/
def scriptKannada : List String :=
  [
    "c80-c8c c8e-c90 c92-ca8 caa-cb3 cb5-cb9 cbc-cc4 cc6-cc8 cca-ccd cd5-cd6 cdd-cde ce0-ce3",
    "ce6-cef cf1-cf3"
  ]

/-- Kirat Rai. -/
def scriptKiratRai : List String :=
  ["16d40-16d79"]

/-- Kaithi. -/
def scriptKaithi : List String :=
  ["11080-110c2 110cd"]

/-- Tai Tham. -/
def scriptTaiTham : List String :=
  ["1a20-1a5e 1a60-1a7c 1a7f-1a89 1a90-1a99 1aa0-1aad"]

/-- Lao. -/
def scriptLao : List String :=
  ["e81-e82 e84 e86-e8a e8c-ea3 ea5 ea7-ebd ec0-ec4 ec6 ec8-ece ed0-ed9 edc-edf"]

/-- Latin. -/
def scriptLatin : List String :=
  [
    "41-5a 61-7a aa ba c0-d6 d8-f6 f8-2b8 2e0-2e4 1d00-1d25 1d2c-1d5c 1d62-1d65 1d6b-1d77",
    "1d79-1dbe 1e00-1eff 2071 207f 2090-209c 212a-212b 2132 214e 2160-2188 2c60-2c7f a722-a787",
    "a78b-a7cd a7d0-a7d1 a7d3 a7d5-a7dc a7f2-a7ff ab30-ab5a ab5c-ab64 ab66-ab69 fb00-fb06",
    "ff21-ff3a ff41-ff5a 10780-10785 10787-107b0 107b2-107ba 1df00-1df1e 1df25-1df2a"
  ]

/-- Lepcha. -/
def scriptLepcha : List String :=
  ["1c00-1c37 1c3b-1c49 1c4d-1c4f"]

/-- Limbu. -/
def scriptLimbu : List String :=
  ["1900-191e 1920-192b 1930-193b 1940 1944-194f"]

/-- Linear A. -/
def scriptLinearA : List String :=
  ["10600-10736 10740-10755 10760-10767"]

/-- Linear B. -/
def scriptLinearB : List String :=
  ["10000-1000b 1000d-10026 10028-1003a 1003c-1003d 1003f-1004d 10050-1005d 10080-100fa"]

/-- Lisu. -/
def scriptLisu : List String :=
  ["a4d0-a4ff 11fb0"]

/-- Lycian. -/
def scriptLycian : List String :=
  ["10280-1029c"]

/-- Lydian. -/
def scriptLydian : List String :=
  ["10920-10939 1093f"]

/-- Mahajani. -/
def scriptMahajani : List String :=
  ["11150-11176"]

/-- Makasar. -/
def scriptMakasar : List String :=
  ["11ee0-11ef8"]

/-- Mandaic. -/
def scriptMandaic : List String :=
  ["840-85b 85e"]

/-- Manichaean. -/
def scriptManichaean : List String :=
  ["10ac0-10ae6 10aeb-10af6"]

/-- Marchen. -/
def scriptMarchen : List String :=
  ["11c70-11c8f 11c92-11ca7 11ca9-11cb6"]

/-- Medefaidrin. -/
def scriptMedefaidrin : List String :=
  ["16e40-16e9a"]

/-- Mende Kikakui. -/
def scriptMendeKikakui : List String :=
  ["1e800-1e8c4 1e8c7-1e8d6"]

/-- Meroitic Cursive. -/
def scriptMeroiticCursive : List String :=
  ["109a0-109b7 109bc-109cf 109d2-109ff"]

/-- Meroitic Hieroglyphs. -/
def scriptMeroiticHieroglyphs : List String :=
  ["10980-1099f"]

/-- Malayalam. -/
def scriptMalayalam : List String :=
  ["d00-d0c d0e-d10 d12-d44 d46-d48 d4a-d4f d54-d63 d66-d7f"]

/-- Modi. -/
def scriptModi : List String :=
  ["11600-11644 11650-11659"]

/-- Mongolian. -/
def scriptMongolian : List String :=
  ["1800-1801 1804 1806-1819 1820-1878 1880-18aa 11660-1166c"]

/-- Mro. -/
def scriptMro : List String :=
  ["16a40-16a5e 16a60-16a69 16a6e-16a6f"]

/-- Meetei Mayek. -/
def scriptMeeteiMayek : List String :=
  ["aae0-aaf6 abc0-abed abf0-abf9"]

/-- Multani. -/
def scriptMultani : List String :=
  ["11280-11286 11288 1128a-1128d 1128f-1129d 1129f-112a9"]

/-- Myanmar. -/
def scriptMyanmar : List String :=
  ["1000-109f a9e0-a9fe aa60-aa7f 116d0-116e3"]

/-- Nag Mundari. -/
def scriptNagMundari : List String :=
  ["1e4d0-1e4f9"]

/-- Nandinagari. -/
def scriptNandinagari : List String :=
  ["119a0-119a7 119aa-119d7 119da-119e4"]

/-- Old North Arabian. -/
def scriptOldNorthArabian : List String :=
  ["10a80-10a9f"]

/-- Nabataean. -/
def scriptNabataean : List String :=
  ["10880-1089e 108a7-108af"]

/-- Newa. -/
def scriptNewa : List String :=
  ["11400-1145b 1145d-11461"]

/-- Nko. -/
def scriptNko : List String :=
  ["7c0-7fa 7fd-7ff"]

/-- Nushu. -/
def scriptNushu : List String :=
  ["16fe1 1b170-1b2fb"]

/-- Ogham. -/
def scriptOgham : List String :=
  ["1680-169c"]

/-- Ol Chiki. -/
def scriptOlChiki : List String :=
  ["1c50-1c7f"]

/-- Ol Onal. -/
def scriptOlOnal : List String :=
  ["1e5d0-1e5fa 1e5ff"]

/-- Old Turkic. -/
def scriptOldTurkic : List String :=
  ["10c00-10c48"]

/-- Oriya. -/
def scriptOriya : List String :=
  [
    "b01-b03 b05-b0c b0f-b10 b13-b28 b2a-b30 b32-b33 b35-b39 b3c-b44 b47-b48 b4b-b4d b55-b57",
    "b5c-b5d b5f-b63 b66-b77"
  ]

/-- Osage. -/
def scriptOsage : List String :=
  ["104b0-104d3 104d8-104fb"]

/-- Osmanya. -/
def scriptOsmanya : List String :=
  ["10480-1049d 104a0-104a9"]

/-- Old Uyghur. -/
def scriptOldUyghur : List String :=
  ["10f70-10f89"]

/-- Palmyrene. -/
def scriptPalmyrene : List String :=
  ["10860-1087f"]

/-- Pau Cin Hau. -/
def scriptPauCinHau : List String :=
  ["11ac0-11af8"]

/-- Old Permic. -/
def scriptOldPermic : List String :=
  ["10350-1037a"]

/-- Phags Pa. -/
def scriptPhagsPa : List String :=
  ["a840-a877"]

/-- Inscriptional Pahlavi. -/
def scriptInscriptionalPahlavi : List String :=
  ["10b60-10b72 10b78-10b7f"]

/-- Psalter Pahlavi. -/
def scriptPsalterPahlavi : List String :=
  ["10b80-10b91 10b99-10b9c 10ba9-10baf"]

/-- Phoenician. -/
def scriptPhoenician : List String :=
  ["10900-1091b 1091f"]

/-- Miao. -/
def scriptMiao : List String :=
  ["16f00-16f4a 16f4f-16f87 16f8f-16f9f"]

/-- Inscriptional Parthian. -/
def scriptInscriptionalParthian : List String :=
  ["10b40-10b55 10b58-10b5f"]

/-- Rejang. -/
def scriptRejang : List String :=
  ["a930-a953 a95f"]

/-- Hanifi Rohingya. -/
def scriptHanifiRohingya : List String :=
  ["10d00-10d27 10d30-10d39"]

/-- Runic. -/
def scriptRunic : List String :=
  ["16a0-16ea 16ee-16f8"]

/-- Samaritan. -/
def scriptSamaritan : List String :=
  ["800-82d 830-83e"]

/-- Old South Arabian. -/
def scriptOldSouthArabian : List String :=
  ["10a60-10a7f"]

/-- Saurashtra. -/
def scriptSaurashtra : List String :=
  ["a880-a8c5 a8ce-a8d9"]

/-- SignWriting. -/
def scriptSignwriting : List String :=
  ["1d800-1da8b 1da9b-1da9f 1daa1-1daaf"]

/-- Shavian. -/
def scriptShavian : List String :=
  ["10450-1047f"]

/-- Sharada. -/
def scriptSharada : List String :=
  ["11180-111df"]

/-- Siddham. -/
def scriptSiddham : List String :=
  ["11580-115b5 115b8-115dd"]

/-- Khudawadi. -/
def scriptKhudawadi : List String :=
  ["112b0-112ea 112f0-112f9"]

/-- Sinhala. -/
def scriptSinhala : List String :=
  [
    "d81-d83 d85-d96 d9a-db1 db3-dbb dbd dc0-dc6 dca dcf-dd4 dd6 dd8-ddf de6-def df2-df4",
    "111e1-111f4"
  ]

/-- Sogdian. -/
def scriptSogdian : List String :=
  ["10f30-10f59"]

/-- Old Sogdian. -/
def scriptOldSogdian : List String :=
  ["10f00-10f27"]

/-- Sora Sompeng. -/
def scriptSoraSompeng : List String :=
  ["110d0-110e8 110f0-110f9"]

/-- Soyombo. -/
def scriptSoyombo : List String :=
  ["11a50-11aa2"]

/-- Sundanese. -/
def scriptSundanese : List String :=
  ["1b80-1bbf 1cc0-1cc7"]

/-- Sunuwar. -/
def scriptSunuwar : List String :=
  ["11bc0-11be1 11bf0-11bf9"]

/-- Syloti Nagri. -/
def scriptSylotiNagri : List String :=
  ["a800-a82c"]

/-- Syriac. -/
def scriptSyriac : List String :=
  ["700-70d 70f-74a 74d-74f 860-86a"]

/-- Tagbanwa. -/
def scriptTagbanwa : List String :=
  ["1760-176c 176e-1770 1772-1773"]

/-- Takri. -/
def scriptTakri : List String :=
  ["11680-116b9 116c0-116c9"]

/-- Tai Le. -/
def scriptTaiLe : List String :=
  ["1950-196d 1970-1974"]

/-- New Tai Lue. -/
def scriptNewTaiLue : List String :=
  ["1980-19ab 19b0-19c9 19d0-19da 19de-19df"]

/-- Tamil. -/
def scriptTamil : List String :=
  [
    "b82-b83 b85-b8a b8e-b90 b92-b95 b99-b9a b9c b9e-b9f ba3-ba4 ba8-baa bae-bb9 bbe-bc2",
    "bc6-bc8 bca-bcd bd0 bd7 be6-bfa 11fc0-11ff1 11fff"
  ]

/-- Tangut. -/
def scriptTangut : List String :=
  ["16fe0 17000-187f7 18800-18aff 18d00-18d08"]

/-- Tai Viet. -/
def scriptTaiViet : List String :=
  ["aa80-aac2 aadb-aadf"]

/-- Telugu. -/
def scriptTelugu : List String :=
  [
    "c00-c0c c0e-c10 c12-c28 c2a-c39 c3c-c44 c46-c48 c4a-c4d c55-c56 c58-c5a c5d c60-c63",
    "c66-c6f c77-c7f"
  ]

/-- Tifinagh. -/
def scriptTifinagh : List String :=
  ["2d30-2d67 2d6f-2d70 2d7f"]

/-- Tagalog. -/
def scriptTagalog : List String :=
  ["1700-1715 171f"]

/-- Thaana. -/
def scriptThaana : List String :=
  ["780-7b1"]

/-- Thai. -/
def scriptThai : List String :=
  ["e01-e3a e40-e5b"]

/-- Tibetan. -/
def scriptTibetan : List String :=
  ["f00-f47 f49-f6c f71-f97 f99-fbc fbe-fcc fce-fd4 fd9-fda"]

/-- Tirhuta. -/
def scriptTirhuta : List String :=
  ["11480-114c7 114d0-114d9"]

/-- Tangsa. -/
def scriptTangsa : List String :=
  ["16a70-16abe 16ac0-16ac9"]

/-- Todhri. -/
def scriptTodhri : List String :=
  ["105c0-105f3"]

/-- Toto. -/
def scriptToto : List String :=
  ["1e290-1e2ae"]

/-- Tulu Tigalari. -/
def scriptTuluTigalari : List String :=
  [
    "11380-11389 1138b 1138e 11390-113b5 113b7-113c0 113c2 113c5 113c7-113ca 113cc-113d5",
    "113d7-113d8 113e1-113e2"
  ]

/-- Ugaritic. -/
def scriptUgaritic : List String :=
  ["10380-1039d 1039f"]

/-- Vai. -/
def scriptVai : List String :=
  ["a500-a62b"]

/-- Vithkuqi. -/
def scriptVithkuqi : List String :=
  [
    "10570-1057a 1057c-1058a 1058c-10592 10594-10595 10597-105a1 105a3-105b1 105b3-105b9",
    "105bb-105bc"
  ]

/-- Warang Citi. -/
def scriptWarangCiti : List String :=
  ["118a0-118f2 118ff"]

/-- Wancho. -/
def scriptWancho : List String :=
  ["1e2c0-1e2f9 1e2ff"]

/-- Old Persian. -/
def scriptOldPersian : List String :=
  ["103a0-103c3 103c8-103d5"]

/-- Cuneiform. -/
def scriptCuneiform : List String :=
  ["12000-12399 12400-1246e 12470-12474 12480-12543"]

/-- Yezidi. -/
def scriptYezidi : List String :=
  ["10e80-10ea9 10eab-10ead 10eb0-10eb1"]

/-- Yi. -/
def scriptYi : List String :=
  ["a000-a48c a490-a4c6"]

/-- Zanabazar Square. -/
def scriptZanabazarSquare : List String :=
  ["11a00-11a47"]

/-- Inherited. -/
def scriptInherited : List String :=
  [
    "300-36f 485-486 64b-655 670 951-954 1ab0-1ace 1cd0-1cd2 1cd4-1ce0 1ce2-1ce8 1ced 1cf4",
    "1cf8-1cf9 1dc0-1dff 200c-200d 20d0-20f0 302a-302d 3099-309a fe00-fe0f fe20-fe2d 101fd",
    "102e0 1133b 1cf00-1cf2d 1cf30-1cf46 1d167-1d169 1d17b-1d182 1d185-1d18b 1d1aa-1d1ad",
    "e0100-e01ef"
  ]

/-- Common. -/
def scriptCommon : List String :=
  [
    "0-40 5b-60 7b-a9 ab-b9 bb-bf d7 f7 2b9-2df 2e5-2e9 2ec-2ff 374 37e 385 387 605 60c 61b",
    "61f 640 6dd 8e2 964-965 e3f fd5-fd8 10fb 16eb-16ed 1735-1736 1802-1803 1805 1cd3 1ce1",
    "1ce9-1cec 1cee-1cf3 1cf5-1cf7 1cfa 2000-200b 200e-2064 2066-2070 2074-207e 2080-208e",
    "20a0-20c0 2100-2125 2127-2129 212c-2131 2133-214d 214f-215f 2189-218b 2190-2429 2440-244a",
    "2460-27ff 2900-2b73 2b76-2b95 2b97-2bff 2e00-2e5d 2ff0-3004 3006 3008-3020 3030-3037",
    "303c-303f 309b-309c 30a0 30fb-30fc 3190-319f 31c0-31e5 31ef 3220-325f 327f-32cf 32ff",
    "3358-33ff 4dc0-4dff a700-a721 a788-a78a a830-a839 a92e a9cf ab5b ab6a-ab6b fd3e-fd3f",
    "fe10-fe19 fe30-fe52 fe54-fe66 fe68-fe6b feff ff01-ff20 ff3b-ff40 ff5b-ff65 ff70 ff9e-ff9f",
    "ffe0-ffe6 ffe8-ffee fff9-fffd 10100-10102 10107-10133 10137-1013f 10190-1019c 101d0-101fc",
    "102e1-102fb 1bca0-1bca3 1cc00-1ccf9 1cd00-1ceb3 1cf50-1cfc3 1d000-1d0f5 1d100-1d126",
    "1d129-1d166 1d16a-1d17a 1d183-1d184 1d18c-1d1a9 1d1ae-1d1ea 1d2c0-1d2d3 1d2e0-1d2f3",
    "1d300-1d356 1d360-1d378 1d400-1d454 1d456-1d49c 1d49e-1d49f 1d4a2 1d4a5-1d4a6 1d4a9-1d4ac",
    "1d4ae-1d4b9 1d4bb 1d4bd-1d4c3 1d4c5-1d505 1d507-1d50a 1d50d-1d514 1d516-1d51c 1d51e-1d539",
    "1d53b-1d53e 1d540-1d544 1d546 1d54a-1d550 1d552-1d6a5 1d6a8-1d7cb 1d7ce-1d7ff 1ec71-1ecb4",
    "1ed01-1ed3d 1f000-1f02b 1f030-1f093 1f0a0-1f0ae 1f0b1-1f0bf 1f0c1-1f0cf 1f0d1-1f0f5",
    "1f100-1f1ad 1f1e6-1f1ff 1f201-1f202 1f210-1f23b 1f240-1f248 1f250-1f251 1f260-1f265",
    "1f300-1f6d7 1f6dc-1f6ec 1f6f0-1f6fc 1f700-1f776 1f77b-1f7d9 1f7e0-1f7eb 1f7f0 1f800-1f80b",
    "1f810-1f847 1f850-1f859 1f860-1f887 1f890-1f8ad 1f8b0-1f8bb 1f8c0-1f8c1 1f900-1fa53",
    "1fa60-1fa6d 1fa70-1fa7c 1fa80-1fa89 1fa8f-1fac6 1face-1fadc 1fadf-1fae9 1faf0-1faf8",
    "1fb00-1fb92 1fb94-1fbf9 e0001 e0020-e007f"
  ]

/-- The names of each script in loose form and its table. -/
def scripts : List (List String × List String) :=
  [
    (["adlam", "adlm"], scriptAdlam),
    (["aghb", "caucasianalbanian"], scriptCaucasianAlbanian),
    (["ahom"], scriptAhom),
    (["arab", "arabic"], scriptArabic),
    (["armi", "imperialaramaic"], scriptImperialAramaic),
    (["armenian", "armn"], scriptArmenian),
    (["avestan", "avst"], scriptAvestan),
    (["bali", "balinese"], scriptBalinese),
    (["bamu", "bamum"], scriptBamum),
    (["bass", "bassavah"], scriptBassaVah),
    (["batak", "batk"], scriptBatak),
    (["beng", "bengali"], scriptBengali),
    (["bhaiksuki", "bhks"], scriptBhaiksuki),
    (["bopo", "bopomofo"], scriptBopomofo),
    (["brah", "brahmi"], scriptBrahmi),
    (["brai", "braille"], scriptBraille),
    (["bugi", "buginese"], scriptBuginese),
    (["buhd", "buhid"], scriptBuhid),
    (["cakm", "chakma"], scriptChakma),
    (["canadianaboriginal", "cans"], scriptCanadianAboriginal),
    (["cari", "carian"], scriptCarian),
    (["cham"], scriptCham),
    (["cher", "cherokee"], scriptCherokee),
    (["chorasmian", "chrs"], scriptChorasmian),
    (["copt", "coptic", "qaac"], scriptCoptic),
    (["cpmn", "cyprominoan"], scriptCyproMinoan),
    (["cprt", "cypriot"], scriptCypriot),
    (["cyrillic", "cyrl"], scriptCyrillic),
    (["deva", "devanagari"], scriptDevanagari),
    (["diak", "divesakuru"], scriptDivesAkuru),
    (["dogr", "dogra"], scriptDogra),
    (["deseret", "dsrt"], scriptDeseret),
    (["dupl", "duployan"], scriptDuployan),
    (["egyp", "egyptianhieroglyphs"], scriptEgyptianHieroglyphs),
    (["elba", "elbasan"], scriptElbasan),
    (["elym", "elymaic"], scriptElymaic),
    (["ethi", "ethiopic"], scriptEthiopic),
    (["gara", "garay"], scriptGaray),
    (["geor", "georgian"], scriptGeorgian),
    (["glag", "glagolitic"], scriptGlagolitic),
    (["gong", "gunjalagondi"], scriptGunjalaGondi),
    (["gonm", "masaramgondi"], scriptMasaramGondi),
    (["goth", "gothic"], scriptGothic),
    (["gran", "grantha"], scriptGrantha),
    (["greek", "grek"], scriptGreek),
    (["gujarati", "gujr"], scriptGujarati),
    (["gukh", "gurungkhema"], scriptGurungKhema),
    (["gurmukhi", "guru"], scriptGurmukhi),
    (["hang", "hangul"], scriptHangul),
    (["han", "hani"], scriptHan),
    (["hano", "hanunoo"], scriptHanunoo),
    (["hatr", "hatran"], scriptHatran),
    (["hebr", "hebrew"], scriptHebrew),
    (["hira", "hiragana"], scriptHiragana),
    (["anatolianhieroglyphs", "hluw"], scriptAnatolianHieroglyphs),
    (["hmng", "pahawhhmong"], scriptPahawhHmong),
    (["hmnp", "nyiakengpuachuehmong"], scriptNyiakengPuachueHmong),
    (["hung", "oldhungarian"], scriptOldHungarian),
    (["ital", "olditalic"], scriptOldItalic),
    (["java", "javanese"], scriptJavanese),
    (["kali", "kayahli"], scriptKayahLi),
    (["kana", "katakana"], scriptKatakana),
    (["kawi"], scriptKawi),
    (["khar", "kharoshthi"], scriptKharoshthi),
    (["khmer", "khmr"], scriptKhmer),
    (["khoj", "khojki"], scriptKhojki),
    (["khitansmallscript", "kits"], scriptKhitanSmallScript),
    (["kannada", "knda"], scriptKannada),
    (["kiratrai", "krai"], scriptKiratRai),
    (["kaithi", "kthi"], scriptKaithi),
    (["lana", "taitham"], scriptTaiTham),
    (["lao", "laoo"], scriptLao),
    (["latin", "latn"], scriptLatin),
    (["lepc", "lepcha"], scriptLepcha),
    (["limb", "limbu"], scriptLimbu),
    (["lina", "lineara"], scriptLinearA),
    (["linb", "linearb"], scriptLinearB),
    (["lisu"], scriptLisu),
    (["lyci", "lycian"], scriptLycian),
    (["lydi", "lydian"], scriptLydian),
    (["mahajani", "mahj"], scriptMahajani),
    (["maka", "makasar"], scriptMakasar),
    (["mand", "mandaic"], scriptMandaic),
    (["mani", "manichaean"], scriptManichaean),
    (["marc", "marchen"], scriptMarchen),
    (["medefaidrin", "medf"], scriptMedefaidrin),
    (["mend", "mendekikakui"], scriptMendeKikakui),
    (["merc", "meroiticcursive"], scriptMeroiticCursive),
    (["mero", "meroitichieroglyphs"], scriptMeroiticHieroglyphs),
    (["malayalam", "mlym"], scriptMalayalam),
    (["modi"], scriptModi),
    (["mong", "mongolian"], scriptMongolian),
    (["mro", "mroo"], scriptMro),
    (["meeteimayek", "mtei"], scriptMeeteiMayek),
    (["mult", "multani"], scriptMultani),
    (["myanmar", "mymr"], scriptMyanmar),
    (["nagm", "nagmundari"], scriptNagMundari),
    (["nand", "nandinagari"], scriptNandinagari),
    (["narb", "oldnortharabian"], scriptOldNorthArabian),
    (["nabataean", "nbat"], scriptNabataean),
    (["newa"], scriptNewa),
    (["nko", "nkoo"], scriptNko),
    (["nshu", "nushu"], scriptNushu),
    (["ogam", "ogham"], scriptOgham),
    (["olchiki", "olck"], scriptOlChiki),
    (["olonal", "onao"], scriptOlOnal),
    (["oldturkic", "orkh"], scriptOldTurkic),
    (["oriya", "orya"], scriptOriya),
    (["osage", "osge"], scriptOsage),
    (["osma", "osmanya"], scriptOsmanya),
    (["olduyghur", "ougr"], scriptOldUyghur),
    (["palm", "palmyrene"], scriptPalmyrene),
    (["pauc", "paucinhau"], scriptPauCinHau),
    (["oldpermic", "perm"], scriptOldPermic),
    (["phag", "phagspa"], scriptPhagsPa),
    (["inscriptionalpahlavi", "phli"], scriptInscriptionalPahlavi),
    (["phlp", "psalterpahlavi"], scriptPsalterPahlavi),
    (["phnx", "phoenician"], scriptPhoenician),
    (["miao", "plrd"], scriptMiao),
    (["inscriptionalparthian", "prti"], scriptInscriptionalParthian),
    (["rejang", "rjng"], scriptRejang),
    (["hanifirohingya", "rohg"], scriptHanifiRohingya),
    (["runic", "runr"], scriptRunic),
    (["samaritan", "samr"], scriptSamaritan),
    (["oldsoutharabian", "sarb"], scriptOldSouthArabian),
    (["saur", "saurashtra"], scriptSaurashtra),
    (["sgnw", "signwriting"], scriptSignwriting),
    (["shavian", "shaw"], scriptShavian),
    (["sharada", "shrd"], scriptSharada),
    (["sidd", "siddham"], scriptSiddham),
    (["khudawadi", "sind"], scriptKhudawadi),
    (["sinh", "sinhala"], scriptSinhala),
    (["sogd", "sogdian"], scriptSogdian),
    (["oldsogdian", "sogo"], scriptOldSogdian),
    (["sora", "sorasompeng"], scriptSoraSompeng),
    (["soyo", "soyombo"], scriptSoyombo),
    (["sund", "sundanese"], scriptSundanese),
    (["sunu", "sunuwar"], scriptSunuwar),
    (["sylo", "sylotinagri"], scriptSylotiNagri),
    (["syrc", "syriac"], scriptSyriac),
    (["tagb", "tagbanwa"], scriptTagbanwa),
    (["takr", "takri"], scriptTakri),
    (["taile", "tale"], scriptTaiLe),
    (["newtailue", "talu"], scriptNewTaiLue),
    (["tamil", "taml"], scriptTamil),
    (["tang", "tangut"], scriptTangut),
    (["taiviet", "tavt"], scriptTaiViet),
    (["telu", "telugu"], scriptTelugu),
    (["tfng", "tifinagh"], scriptTifinagh),
    (["tagalog", "tglg"], scriptTagalog),
    (["thaa", "thaana"], scriptThaana),
    (["thai"], scriptThai),
    (["tibetan", "tibt"], scriptTibetan),
    (["tirh", "tirhuta"], scriptTirhuta),
    (["tangsa", "tnsa"], scriptTangsa),
    (["todhri", "todr"], scriptTodhri),
    (["toto"], scriptToto),
    (["tulutigalari", "tutg"], scriptTuluTigalari),
    (["ugar", "ugaritic"], scriptUgaritic),
    (["vai", "vaii"], scriptVai),
    (["vith", "vithkuqi"], scriptVithkuqi),
    (["wara", "warangciti"], scriptWarangCiti),
    (["wancho", "wcho"], scriptWancho),
    (["oldpersian", "xpeo"], scriptOldPersian),
    (["cuneiform", "xsux"], scriptCuneiform),
    (["yezi", "yezidi"], scriptYezidi),
    (["yi", "yiii"], scriptYi),
    (["zanabazarsquare", "zanb"], scriptZanabazarSquare),
    (["inherited", "qaai", "zinh"], scriptInherited),
    (["common", "zyyy"], scriptCommon)
  ]

end Pattern

end RecordSchema
