import LivePipeline.Text.CharSet

/-! The scripts that characters belong to, as of Unicode 16. -/

namespace LivePipeline.Unicode

/-- The characters of one script each, by the names of the script. -/
def scripts : List NamedSet := [
  ⟨["adlam", "adlm"], "1e900.4b 5.9 5.1"⟩,
  ⟨["ahom"], "11700.1a 3.e 5.16"⟩,
  ⟨["anatolianhieroglyphs", "hluw"], "14400.246"⟩,
  ⟨["arabic", "arab"],
    "600.4 2.5 2.d 2.2 2.1f 2.9 c.19 2.6b 2.21 51.2f f1.1e 2.1 6.4a 2.1c f251.72 11.16a 3.4f
     3.35 8 21.f 71.4 2.86 f64.1e 44.2 38.3 df01.3 2.1a 2.1 2 3 2.9 2.3 2 2 7 5 2 2 2.2 2.1 2 3
     2 2 2 2 2.1 2 3.3 2.6 2.3 2.3 2 2.9 2.10 6.2 2.4 2.10 35.1"⟩,
  ⟨["armenian", "armn"], "531.25 3.31 3.2 f584.4"⟩,
  ⟨["avestan", "avst"], "10b00.35 4.6"⟩,
  ⟨["balinese", "bali"], "1b00.4c 2.31"⟩,
  ⟨["bamum", "bamu"], "a6a0.57 c109.238"⟩,
  ⟨["bassavah", "bass"], "16ad0.1d 3.5"⟩,
  ⟨["batak", "batk"], "1bc0.33 9.3"⟩,
  ⟨["bengali", "beng"], "980.3 2.7 3.1 3.15 2.6 2 4.3 3.8 3.1 3.3 9 5.1 2.4 3.18"⟩,
  ⟨["bhaiksuki", "bhks"], "11c00.8 2.2c 2.d b.1c"⟩,
  ⟨["bopomofo", "bopo"], "2ea.1 2e1a.2a 71.1f"⟩,
  ⟨["brahmi", "brah"], "11000.4d 5.23 a"⟩,
  ⟨["braille", "brai"], "2800.ff"⟩,
  ⟨["buginese", "bugi"], "1a00.1b 3.1"⟩,
  ⟨["buhid", "buhd"], "1740.13"⟩,
  ⟨["canadianaboriginal", "cans"], "1400.27f 231.45 101bb.f"⟩,
  ⟨["carian", "cari"], "102a0.30"⟩,
  ⟨["caucasianalbanian", "aghb"], "10530.33 c"⟩,
  ⟨["chakma", "cakm"], "11100.34 2.11"⟩,
  ⟨["cham"], "aa00.36 a.d 3.9 3.3"⟩,
  ⟨["cherokee", "cher"], "13a0.55 3.5 9773.4f"⟩,
  ⟨["chorasmian", "chrs"], "10fb0.1b"⟩,
  ⟨["common", "zyyy"],
    "0.40 1b.5 1b.2e 2.e 2.4 18 20 1c2.26 6.4 3.13 75 a 7 2 27e 7 f 4 21 9d 205 82.1 4da 196.3
     123 5f0.2 48.1 cc.1 2 4ce e 8.3 2.5 2.2 3 306.b 3.56 2.a 4.a 2.e 12.20 40.25 2.2 3.5 2.1a
     2.10 2a.2 5.299 17.a 16.39f 101.273 3.1f 2.68 201.5d 193.14 2 2.18 10.7 5.3 5c.1 4 5b.1
     94.f 21.25 a 31.3f 20.50 30 59.a7 19c1.3f 5901.21 67.2 a6.9 f5 a1 18c f.1 51d3.1 d1.9 17.22
     2.12 2.3 94 2.1f 1b.5 1b.a b 2e.1 41.6 2.6 b.4 103.2 5.2c 4.8 51.c 34.2c e5.1a b9a5.3
     f5d.f9 7.1b3 9d.73 3d.f5 b.26 3.3d 4.10 9.1 8.1d 5.3c d6.13 d.13 d.56 a.18 88.54 2.46 2.1 3
     3.1 3.3 2.b 2 2.6 2.40 2.3 3.7 2.6 2.1b 2.3 2.4 2 4.6 2.153 3.123 3.31 1472.43 4d.3c 2c3.2b
     5.63 d.e 3.e 2.e 2.24 b.ad 39.19 2.1 e.2b 5.8 8.1 f.5 9b.3d7 5.10 4.c 4.76 5.5e 7.b 5 10.b
     5.37 9.9 7.27 9.1d 3.b 5.1 3f.153 d.d 3.c 4.9 6.37 8.e 3.a 7.8 8.92 2.65 c0408 1f.5f"⟩,
  ⟨["coptic", "copt", "qaac"], "3e2.d 2891.73 6.6"⟩,
  ⟨["cuneiform", "xsux"], "12000.399 67.6e 2.4 c.c3"⟩,
  ⟨["cypriot", "cprt"], "10800.5 3 2.2b 2.1 4 3"⟩,
  ⟨["cyprominoan", "cpmn"], "12f90.62"⟩,
  ⟨["cyrillic", "cyrl"], "400.84 3.a8 1751.a a1 4d 1068.1f 7841.5f 578f.1 e201.3d 22"⟩,
  ⟨["deseret", "dsrt"], "10400.4f"⟩,
  ⟨["devanagari", "deva"], "900.50 5.e 3.19 9f61.1f 7201.9"⟩,
  ⟨["divesakuru", "diak"], "11900.6 3 3.7 2.1 2.1d 2.1 3.b a.9"⟩,
  ⟨["dogra", "dogr"], "11800.3b"⟩,
  ⟨["duployan", "dupl"], "1bc00.6a 6.c 4.8 8.9 3.3"⟩,
  ⟨["egyptianhieroglyphs", "egyp"], "13000.455 b.f9a"⟩,
  ⟨["elbasan", "elba"], "10500.27"⟩,
  ⟨["elymaic", "elym"], "10fe0.16"⟩,
  ⟨["ethiopic", "ethi"],
    "1200.48 2.3 3.6 2 2.3 3.28 2.3 3.20 2.3 3.6 2 2.3 3.e 2.38 2.3 3.42 3.1f 4.19 19e7.16 a.6
     2.6 2.6 2.6 2.6 2.6 2.6 2.6 7d23.5 3.5 3.5 a.6 2.6 13cb2.6 2.3 2.1 2.e"⟩,
  ⟨["garay", "gara"], "10d40.25 4.1c 9.1"⟩,
  ⟨["georgian", "geor"], "10a0.25 2 6 3.2a 2.3 b91.2a 3.2 1041.25 2 6"⟩,
  ⟨["glagolitic", "glag"], "2c00.5f 1b3a1.6 2.10 3.6 2.1 2.4"⟩,
  ⟨["gothic", "goth"], "10330.1a"⟩,
  ⟨["grantha", "gran"], "11300.3 2.7 3.1 3.15 2.6 2.1 2.4 3.8 3.1 3.2 3 7 6.6 3.6 4.4"⟩,
  ⟨["greek", "grek"],
    "370.3 2.2 3.3 2 5 2 2.2 2 2.13 2.3e f.f 1927.4 33.4 5.4 55 141.15 3.5 3.25 3.5 3.7 2 2 2
     2.1e 3.34 2.e 2.d 3.5 2.12 3.2 2.8 128 8a3f 55db.4e 12 d060.45"⟩,
  ⟨["gujarati", "gujr"], "a81.2 2.8 2.2 2.15 2.6 2.1 2.4 3.9 2.2 2.2 3 10.3 3.b 8.6"⟩,
  ⟨["gunjalagondi", "gong"], "11d60.5 2.1 2.24 2.1 2.5 8.9"⟩,
  ⟨["gurmukhi", "guru"], "a01.2 2.5 5.1 3.15 2.6 2.1 2.1 2.1 3 2.4 5.1 3.2 4 8.3 2 8.10"⟩,
  ⟨["gurungkhema", "gukh"], "16100.39"⟩,
  ⟨["han", "hani"],
    "2e80.19 2.58 d.d5 30 2 1a.8 f.3 3c5.19bf 41.51ff 5901.16d 3.69 7509.1 d.1 900f.a6df 21.1039
     7.dd 3.1681 f.1d30 10.26d 9a3.21d 5e3.134a 6.105f"⟩,
  ⟨["hangul", "hang"],
    "1100.ff 1e2f.1 102.5d 72.1e 42.1e 76e2.1c 284.2ba3 d.16 5.30 27a5.1e 4.5 3.5 3.5 3.2"⟩,
  ⟨["hanifirohingya", "rohg"], "10d00.27 9.9"⟩,
  ⟨["hanunoo", "hano"], "1720.14"⟩,
  ⟨["hatran", "hatr"], "108e0.12 2.1 6.4"⟩,
  ⟨["hebrew", "hebr"], "591.36 9.1a 5.5 f529.19 2.4 2 2.1 2.1 2.9"⟩,
  ⟨["hiragana", "hira"], "3041.55 7.2 17f62.11e 13 1e.2 40ae"⟩,
  ⟨["imperialaramaic", "armi"], "10840.15 2.8"⟩,
  ⟨["inherited", "zinh", "qaai"],
    "300.6f 116.1 1c5.a 1b 2e1.3 115c.1e 202.2 2.c 2.6 5 7 4.1 c7.3f 20d.1 c3.20 f3a.3 6c.1
     cd66.f 11.d 3d0 e3 105b bbc5.2d 3.16 221.2 12.7 3.6 1f.3 c2f53.ef"⟩,
  ⟨["inscriptionalpahlavi", "phli"], "10b60.12 6.7"⟩,
  ⟨["inscriptionalparthian", "prti"], "10b40.15 3.7"⟩,
  ⟨["javanese", "java"], "a980.4d 3.9 5.1"⟩,
  ⟨["kaithi", "kthi"], "11080.42 b"⟩,
  ⟨["kannada", "knda"], "c80.c 2.2 2.16 2.9 2.4 3.8 2.2 2.3 8.1 7.1 2.3 3.9 2.2"⟩,
  ⟨["katakana", "kana"], "30a1.59 3.2 f1.f d1.2e 2.57 cc0f.9 2.2c b053.3 2.6 2.1 2 120.2 33 f.3"⟩,
  ⟨["kawi"], "11f00.10 2.28 4.1c"⟩,
  ⟨["kayahli", "kali"], "a900.2d 2"⟩,
  ⟨["kharoshthi", "khar"], "10a00.3 2.1 6.7 2.2 2.1c 3.2 5.9 8.8"⟩,
  ⟨["khitansmallscript", "kits"], "16fe4 1b1c.1d5 2a"⟩,
  ⟨["khmer", "khmr"], "1780.5d 3.9 7.9 1e7.1f"⟩,
  ⟨["khojki", "khoj"], "11200.11 2.2e"⟩,
  ⟨["khudawadi", "sind"], "112b0.3a 6.9"⟩,
  ⟨["kiratrai", "krai"], "16d40.39"⟩,
  ⟨["lao", "laoo"], "e81.1 2 2.4 2.17 2 2.16 3.4 2 2.6 2.9 3.3"⟩,
  ⟨["latin", "latn"],
    "41.19 7.19 30 10 6.16 2.1e 2.1c0 28.4 1a1c.25 7.30 6.3 6.c 2.45 42.ff 172 e 11.c 8e.1 7 1c
     12.28 ad8.1f 7aa3.65 4.42 3.1 2 2.7 16.d 331.2a 2.8 2.3 4f97.6 41b.19 7.19 826.5 2.29 2.8
     d746.1e 7.5"⟩,
  ⟨["lepcha", "lepc"], "1c00.37 4.e 4.2"⟩,
  ⟨["limbu", "limb"], "1900.1e 2.b 5.b 5 4.b"⟩,
  ⟨["lineara", "lina"], "10600.136 a.15 b.7"⟩,
  ⟨["linearb", "linb"], "10000.b 2.19 2.12 2.1 2.e 3.d 23.7a"⟩,
  ⟨["lisu"], "a4d0.2f 7ab1"⟩,
  ⟨["lycian", "lyci"], "10280.1c"⟩,
  ⟨["lydian", "lydi"], "10920.19 6"⟩,
  ⟨["mahajani", "mahj"], "11150.26"⟩,
  ⟨["makasar", "maka"], "11ee0.18"⟩,
  ⟨["malayalam", "mlym"], "d00.c 2.2 2.32 2.2 2.5 5.f 3.19"⟩,
  ⟨["mandaic", "mand"], "840.1b 3"⟩,
  ⟨["manichaean", "mani"], "10ac0.26 5.b"⟩,
  ⟨["marchen", "marc"], "11c70.1f 3.15 2.d"⟩,
  ⟨["masaramgondi", "gonm"], "11d00.6 2.1 2.2b 4 2.1 2.8 9.9"⟩,
  ⟨["medefaidrin", "medf"], "16e40.5a"⟩,
  ⟨["meeteimayek", "mtei"], "aae0.16 ca.2d 3.9"⟩,
  ⟨["mendekikakui", "mend"], "1e800.c4 3.f"⟩,
  ⟨["meroiticcursive", "merc"], "109a0.17 5.13 3.2d"⟩,
  ⟨["meroitichieroglyphs", "mero"], "10980.1f"⟩,
  ⟨["miao", "plrd"], "16f00.4a 5.38 8.10"⟩,
  ⟨["modi"], "11600.44 c.9"⟩,
  ⟨["mongolian", "mong"], "1800.1 3 2.13 7.58 8.2a fdb6.c"⟩,
  ⟨["mro", "mroo"], "16a40.1e 2.9 5.1"⟩,
  ⟨["multani", "mult"], "11280.6 2 2.3 2.e 2.a"⟩,
  ⟨["myanmar", "mymr"], "1000.9f 9941.1e 62.1f 6c51.13"⟩,
  ⟨["nabataean", "nbat"], "10880.1e 9.8"⟩,
  ⟨["nagmundari", "nagm"], "1e4d0.29"⟩,
  ⟨["nandinagari", "nand"], "119a0.7 3.2d 3.a"⟩,
  ⟨["newtailue", "talu"], "1980.2b 5.19 7.a 4.1"⟩,
  ⟨["newa"], "11400.5b 2.4"⟩,
  ⟨["nko", "nkoo"], "7c0.3a 3.2"⟩,
  ⟨["nushu", "nshu"], "16fe1 418f.18b"⟩,
  ⟨["nyiakengpuachuehmong", "hmnp"], "1e100.2c 4.d 3.9 5.1"⟩,
  ⟨["ogham", "ogam"], "1680.1c"⟩,
  ⟨["olchiki", "olck"], "1c50.2f"⟩,
  ⟨["olonal", "onao"], "1e5d0.2a 5"⟩,
  ⟨["oldhungarian", "hung"], "10c80.32 e.32 8.5"⟩,
  ⟨["olditalic", "ital"], "10300.23 a.2"⟩,
  ⟨["oldnortharabian", "narb"], "10a80.1f"⟩,
  ⟨["oldpermic", "perm"], "10350.2a"⟩,
  ⟨["oldpersian", "xpeo"], "103a0.23 5.d"⟩,
  ⟨["oldsogdian", "sogo"], "10f00.27"⟩,
  ⟨["oldsoutharabian", "sarb"], "10a60.1f"⟩,
  ⟨["oldturkic", "orkh"], "10c00.48"⟩,
  ⟨["olduyghur", "ougr"], "10f70.19"⟩,
  ⟨["oriya", "orya"], "b01.2 2.7 3.1 3.15 2.6 2.1 2.4 3.8 3.1 3.2 8.2 5.1 2.4 3.11"⟩,
  ⟨["osage", "osge"], "104b0.23 5.23"⟩,
  ⟨["osmanya", "osma"], "10480.1d 3.9"⟩,
  ⟨["pahawhhmong", "hmng"], "16b00.45 b.9 2.6 2.14 6.12"⟩,
  ⟨["palmyrene", "palm"], "10860.1f"⟩,
  ⟨["paucinhau", "pauc"], "11ac0.38"⟩,
  ⟨["phagspa", "phag"], "a840.37"⟩,
  ⟨["phoenician", "phnx"], "10900.1b 4"⟩,
  ⟨["psalterpahlavi", "phlp"], "10b80.11 8.3 d.6"⟩,
  ⟨["rejang", "rjng"], "a930.23 c"⟩,
  ⟨["runic", "runr"], "16a0.4a 4.a"⟩,
  ⟨["samaritan", "samr"], "800.2d 3.e"⟩,
  ⟨["saurashtra", "saur"], "a880.45 9.b"⟩,
  ⟨["sharada", "shrd"], "11180.5f"⟩,
  ⟨["shavian", "shaw"], "10450.2f"⟩,
  ⟨["siddham", "sidd"], "11580.35 3.25"⟩,
  ⟨["signwriting", "sgnw"], "1d800.28b 10.4 2.e"⟩,
  ⟨["sinhala", "sinh"], "d81.2 2.11 4.17 2.8 2 3.6 4 5.5 2 2.7 7.9 3.2 103ed.13"⟩,
  ⟨["sogdian", "sogd"], "10f30.29"⟩,
  ⟨["sorasompeng", "sora"], "110d0.18 8.9"⟩,
  ⟨["soyombo", "soyo"], "11a50.52"⟩,
  ⟨["sundanese", "sund"], "1b80.3f 101.7"⟩,
  ⟨["sunuwar", "sunu"], "11bc0.21 f.9"⟩,
  ⟨["sylotinagri", "sylo"], "a800.2c"⟩,
  ⟨["syriac", "syrc"], "700.d 2.3b 3.2 111.a"⟩,
  ⟨["tagalog", "tglg"], "1700.15 a"⟩,
  ⟨["tagbanwa", "tagb"], "1760.c 2.2 2.1"⟩,
  ⟨["taile", "tale"], "1950.1d 3.4"⟩,
  ⟨["taitham", "lana"], "1a20.3e 2.1c 3.a 7.9 7.d"⟩,
  ⟨["taiviet", "tavt"], "aa80.42 19.4"⟩,
  ⟨["takri", "takr"], "11680.39 7.9"⟩,
  ⟨["tamil", "taml"], "b82.1 2.5 4.2 2.3 4.1 2 2.1 4.1 4.2 4.b 5.4 4.2 2.3 3 7 f.14 113c6.31 e"⟩,
  ⟨["tangsa", "tnsa"], "16a70.4e 2.9"⟩,
  ⟨["tangut", "tang"], "16fe0 20.17f7 9.2ff 201.8"⟩,
  ⟨["telugu", "telu"], "c00.c 2.2 2.16 2.f 3.8 2.2 2.3 8.1 2.2 3 3.3 3.9 8.8"⟩,
  ⟨["thaana", "thaa"], "780.31"⟩,
  ⟨["thai"], "e01.39 6.1b"⟩,
  ⟨["tibetan", "tibt"], "f00.47 2.23 5.26 2.23 2.e 2.6 5.1"⟩,
  ⟨["tifinagh", "tfng"], "2d30.37 8.1 f"⟩,
  ⟨["tirhuta", "tirh"], "11480.47 9.9"⟩,
  ⟨["todhri", "todr"], "105c0.33"⟩,
  ⟨["toto"], "1e290.1e"⟩,
  ⟨["tulutigalari", "tutg"], "11380.9 2 3 2.25 2.9 2 3 2.3 2.9 2.1 9.1"⟩,
  ⟨["ugaritic", "ugar"], "10380.1d 2"⟩,
  ⟨["vai", "vaii"], "a500.12b"⟩,
  ⟨["vithkuqi", "vith"], "10570.a 2.e 2.6 2.1 2.a 2.e 2.6 2.1"⟩,
  ⟨["wancho", "wcho"], "1e2c0.39 6"⟩,
  ⟨["warangciti", "wara"], "118a0.52 d"⟩,
  ⟨["yezidi", "yezi"], "10e80.29 2.2 3.1"⟩,
  ⟨["yi", "yiii"], "a000.48c 4.36"⟩,
  ⟨["zanabazarsquare", "zanb"], "11a00.47"⟩]

/-- The characters that are used with a script, where they are not just its own. -/
def sharedScripts : List NamedSet := [
  ⟨["adlam", "adlm"], "61f 21 1a0f df2 1babf.4b 5.9 5.1"⟩,
  ⟨["arabic", "arab"],
    "600.4 2.d6 2.21 51.2f f1.1e 2.1 6.4a 2.1c 1750 df2 cd0f.72 11.1bc 3.35 8 21.f 71.4 2.86
     3e4.1b b65.1e 44.2 38.3 df01.3 2.1a 2.1 2 3 2.9 2.3 2 2 7 5 2 2 2.2 2.1 2 3 2 2 2 2 2.1 2
     3.3 2.6 2.3 2.3 2 2.9 2.10 6.2 2.4 2.10 35.1"⟩,
  ⟨["armenian", "armn"], "308 229.25 3.31 3.2 f584.4"⟩,
  ⟨["avestan", "avst"], "b7 2d79.1 dccf.35 4.6"⟩,
  ⟨["bengali", "beng"],
    "2bc 695.1 12.1 1b.3 2.7 3.1 3.15 2.6 2 4.3 3.8 3.1 3.3 9 5.1 2.4 3.18 12d2 2 3.1 2 9 9 3 5
     3.2 8bfa"⟩,
  ⟨["bopomofo", "bopo"], "2c7 2.2 e 11.1 2d16.2 5.9 2.c b.3 3 7 c4 a.2a 71.1f cc86.1 11b.4"⟩,
  ⟨["buginese", "bugi"], "1a00.1b 3.1 8fb0"⟩,
  ⟨["buhid", "buhd"], "1735.1 a.13"⟩,
  ⟨["carian", "cari"], "b7 1fa3 3 dd4 d46f.30"⟩,
  ⟨["caucasianalbanian", "aghb"], "304 2d 2d 101d2.33 c"⟩,
  ⟨["chakma", "cakm"], "9e6.9 651.9 100b7.34 2.11"⟩,
  ⟨["cherokee", "cher"], "300.2 2 7.1 17.1 c.1 106f.55 3.5 9773.4f"⟩,
  ⟨["common", "zyyy"],
    "0.40 1b.5 1b.2e 2.b 2.1 2.4 18 20 1c2.2 2.9 2 4 2.8 2 2.5 6.4 3.13 7f 7 2 27e d8 205 55d
     196.3 1028.b 3.20 2.1e 2.9 2.1 2.6 2.a 4.a 2.e 12.20 40.25 2.2 3.5 2.1a 2.10 2a.2 5.299
     17.a 16.39f 101.273 3.1f 2.68 201.16 2.17 3.9 2.3 2 2.19 1a3 4 e e 16 212.17 20 32.e d.3
     a2.9 6.5f 20 19c1.3f 5909.19 67.2 3d1 f.1 52a5.9 17.14 3.b 2.12 2.3 94 2.1f 1b.5 1b.5 80.6
     2.6 b.4 193.c 34.2c ca04.f9 7.1b3 9d.73 3d.f5 b.26 3.3d 4.10 9.1 8.1d 5.3c d6.13 d.13 d.56
     1c.6 88.54 2.46 2.1 3 3.1 3.3 2.b 2 2.6 2.40 2.3 3.7 2.6 2.1b 2.3 2.4 2 4.6 2.153 3.123
     3.31 1472.43 4d.3c 2c3.2b 5.63 d.e 3.e 2.e 2.24 b.ad 39.19 2.1 e.2b 5.8 18.5 9b.3d7 5.10
     4.c 4.76 5.5e 7.b 5 10.b 5.37 9.9 7.27 9.1d 3.b 5.1 3f.153 d.d 3.c 4.9 6.37 8.e 3.a 7.8
     8.92 2.65 c0408 1f.5f"⟩,
  ⟨["coptic", "copt", "qaac"], "b7 249 4.1 2 6d.1 6d.d 2891.73 6.6 118 d4c9.1b"⟩,
  ⟨["cypriot", "cprt"], "10100.2 5.2c 4.8 6c1.5 3 2.2b 2.1 4 3"⟩,
  ⟨["cyprominoan", "cpmn"], "10100.1 2e8f.62"⟩,
  ⟨["cyrillic", "cyrl"],
    "2bc 44.2 2 2 2 3 6 ef.12f 1751.a a1 4d 80 fe8.1f 44 77fd.5f 578f.1 e201.3d 22"⟩,
  ⟨["devanagari", "deva"], "2bc 644.52 3.2a 1351.26 2.1 3f7 8740.9 a7.1f 7201.9"⟩,
  ⟨["dogra", "dogr"], "964.b 9ec1.9 6fc7.3b"⟩,
  ⟨["duployan", "dupl"], "b7 250.1 2 19.1 2b18 18dc4.6a 6.c 4.8 8.9 3.7"⟩,
  ⟨["elbasan", "elba"], "b7 24e 101fb.27"⟩,
  ⟨["ethiopic", "ethi"],
    "30e ef2.48 2.3 3.6 2 2.3 3.28 2.3 3.20 2.3 3.6 2 2.3 3.e 2.38 2.3 3.42 3.1f 4.19 19e7.16
     a.6 2.6 2.6 2.6 2.6 2.6 2.6 2.6 7d23.5 3.5 3.5 a.6 2.6 13cb2.6 2.3 2.1 2.e"⟩,
  ⟨["garay", "gara"], "60c f 4 10721.25 4.1c 9.1"⟩,
  ⟨["georgian", "geor"], "b7 4d2 b17.25 2 6 3.2f b91.2a 3.2 39b ca6.25 2 6 104"⟩,
  ⟨["glagolitic", "glag"], "b7 24c 2 17f 3 102 b72 f5f ba6.5f 1e4 782c 13991.6 2.10 3.6 2.1 2.4"⟩,
  ⟨["gothic", "goth"], "b7 24d.1 3 29 ffff.1a"⟩,
  ⟨["grantha", "gran"],
    "951.1 12.1 281.d 10dd 2.1 1f.2 4.1 3f7 f210.3 2.7 3.1 3.15 2.6 2.1 2.4 2.9 3.1 3.2 3 7 6.6
     3.6 4.4 c5c.1 2"⟩,
  ⟨["greek", "grek"],
    "b7 249.1 3 2 2 b 2f 3 2b.7 3.3 2 5 2 2.2 2 2.13 2.3e f.f 1927.4 33.4 5.4 55.2 13f.15 3.5
     3.25 3.5 3.7 2 2 2 2.1e 3.34 2.e 2.d 3.5 2.12 3.2 2.8 5f c9 8a3f 55db.4e 12 d060.45"⟩,
  ⟨["gujarati", "gujr"],
    "951.1 12.1 11c.2 2.8 2.2 2.15 2.6 2.1 2.4 3.9 2.2 2.2 3 10.3 3.b 8.6 9d31.9"⟩,
  ⟨["gunjalagondi", "gong"], "b7 8ad.1 113fb.5 2.1 2.24 2.1 2.5 8.9"⟩,
  ⟨["gurmukhi", "guru"],
    "951.1 12.1 9c.2 2.5 5.1 3.15 2.6 2.1 2.1 2.1 3 2.4 5.1 3.2 4 8.3 2 8.10 9dba.9"⟩,
  ⟨["gurungkhema", "gukh"], "965 1579b.39"⟩,
  ⟨["han", "hani"],
    "b7 2dc9.19 2.58 d.d5 1b.f 2.2 2.c 2.c 2.c 3 7.8 bc 95.f 21.25 a 31.27 39.30 10.b 34 59.18
     b.4 61.1e 2.19bf 41.51ff 701.7 51f9.16d 3.69 36c.1 11b.4 707d.1 d.1 636f.11 1edf.1 daf.a6df
     21.1039 7.dd 3.1681 f.1d30 10.26d 9a3.21d 5e3.134a 6.105f"⟩,
  ⟨["hangul", "hang"],
    "1100.ff 1e02.2 5.9 2.c f.2 7 c4 36.5d 72.1e 42.1e 76e2.1c 284.2ba3 d.16 5.30 264a.1 11b.4
     3b.1e 4.5 3.5 3.5 3.2"⟩,
  ⟨["hanifirohingya", "rohg"], "60c f 4 21 94 1062c.27 9.9"⟩,
  ⟨["hanunoo", "hano"], "1720.16"⟩,
  ⟨["hebrew", "hebr"], "307.1 289.36 9.1a 5.5 f529.19 2.4 2 2.1 2.1 2.9"⟩,
  ⟨["hiragana", "hira"],
    "3001.2 5.9 2.c 11.5 2 5.1 4.55 3.7 5b.1 cd49.1 11b.4 b 2e.1 b062.11e 13 1e.2 40ae"⟩,
  ⟨["inherited", "zinh", "qaai"],
    "30f 3 2.b 2.1 4.6 3 3.f 2.1 2.11 2.4 2.3 5f1.1 115c.1e 2f4.35 2 2.4 20d.1 c3.1f dd11.f 11.d
     3d0 cd03.2d 3.16 221.2 12.7 3.6 1f.3 c2f53.ef"⟩,
  ⟨["javanese", "java"], "a980.4d 2.a 5.1"⟩,
  ⟨["kaithi", "kthi"], "966.9 24c2 79ff.9 6847.42 b"⟩,
  ⟨["kannada", "knda"],
    "951.1 12.1 31b.c 2.2 2.16 2.9 2.4 3.8 2.2 2.3 8.1 7.1 2.3 3.9 2.2 fdd 2.1 7 18 2 8b3c.5"⟩,
  ⟨["katakana", "kana"],
    "305 1e 2cde.2 5.9 2.c 11.5 2 5.1 5c.3 4.5f f1.f d1.2e 2.57 caee.1 11b.3e b051.3 2.6 2.1 2
     120.2 33 f.3"⟩,
  ⟨["kayahli", "kali"], "a900.2f"⟩,
  ⟨["khojki", "khoj"], "ae6.9 9d41.9 69c7.11 2.2e"⟩,
  ⟨["khudawadi", "sind"], "964.1 9ecb.9 6a77.3a 6.9"⟩,
  ⟨["latin", "latn"],
    "41.19 7.19 30 d 3 6.16 2.1e 2.1c0 4 b 2.2 2 a 2 7.4 1c.e 2.1 2 d 3.2 8.1 2.1 27 6 5.c 116.1
     4cb.1 7a9 c05.25 7.30 6.3 6.c 2.45 3a 8.ff 130 42 e 11.c 54 3a.1 7 1c 12.28 ad8.1f 198
     78e9.7 1b.65 4.42 3.1 2 2.7 16.d 12f 202.2a 2.8 2.3 4f97.6 41b.19 7.19 826.5 2.29 2.8
     d746.1e 7.5"⟩,
  ⟨["limbu", "limb"], "965 f9b.1e 2.b 5.b 5 4.b"⟩,
  ⟨["lineara", "lina"], "10107.2c 4cd.136 a.15 b.7"⟩,
  ⟨["linearb", "linb"], "10000.b 2.19 2.12 2.1 2.e 3.d 23.7a 6.2 5.2c 4.8"⟩,
  ⟨["lisu"], "2bc 11 2d3d.1 74c5.2f 7ab1"⟩,
  ⟨["lycian", "lyci"], "205a e226.1c"⟩,
  ⟨["lydian", "lydi"], "b7 2d7a daef.19 6"⟩,
  ⟨["mahajani", "mahj"], "b7 8ad.b 9ec1.9 6917.26"⟩,
  ⟨["malayalam", "mlym"], "951.1 12.1 39b.c 2.2 2.32 2.2 2.5 5.f 3.19 f5b 18 8b3e.2"⟩,
  ⟨["mandaic", "mand"], "640 200.1b 3"⟩,
  ⟨["manichaean", "mani"], "640 10480.26 5.b"⟩,
  ⟨["masaramgondi", "gonm"], "964.1 1139b.6 2.1 2.2b 4 2.1 2.8 9.9"⟩,
  ⟨["meroitichieroglyphs", "mero"], "205d e923.1f"⟩,
  ⟨["modi"], "a830.9 6dc7.44 c.9"⟩,
  ⟨["mongolian", "mong"], "1800.19 7.58 8.2a 785 fd2.1 6.3 e655.c"⟩,
  ⟨["multani", "mult"], "a66.9 10811.6 2 2.3 2.e 2.a"⟩,
  ⟨["myanmar", "mymr"], "1000.9f 988f b2.1e 62.1f 6c51.13"⟩,
  ⟨["nandinagari", "nand"], "964.1 381.9 ffa 9 8 8b36.5 716b.7 3.2d 3.a"⟩,
  ⟨["nko", "nkoo"], "60c f 4 1a1.3a 3.2 f53f.1"⟩,
  ⟨["olonal", "onao"], "964.1 1dc6b.2a 5"⟩,
  ⟨["oldhungarian", "hung"], "205a 3 dd4 10 de3f.32 e.32 8.5"⟩,
  ⟨["oldpermic", "perm"], "b7 249 6.2 b 170 fecd.2a"⟩,
  ⟨["oldturkic", "orkh"], "205a dd6 ddd0.48"⟩,
  ⟨["olduyghur", "ougr"], "640 104b2 47e.19"⟩,
  ⟨["oriya", "orya"],
    "951.1 12.1 19c.2 2.7 3.1 3.15 2.6 2.1 2.4 3.8 3.1 3.2 8.2 5.1 2.4 3.11 1163 18"⟩,
  ⟨["osage", "osge"], "301 3 7 4d 10158.23 5.23"⟩,
  ⟨["phagspa", "phag"], "1802.1 2 82a fd3 783e.37"⟩,
  ⟨["psalterpahlavi", "phlp"], "640 10540.11 8.3 d.6"⟩,
  ⟨["runic", "runr"], "16a0.58"⟩,
  ⟨["samaritan", "samr"], "800.2d 3.e 25f3"⟩,
  ⟨["sharada", "shrd"], "951 1386 2 3.1 3 8b50.5 3 6948.5f"⟩,
  ⟨["shavian", "shaw"], "b7 10399.2f"⟩,
  ⟨["sinhala", "sinh"], "964.1 41c.2 2.11 4.17 2.8 2 3.6 4 5.5 2 2.7 7.9 3.2 efe f4ef.13"⟩,
  ⟨["sogdian", "sogd"], "640 108f0.29"⟩,
  ⟨["sunuwar", "sunu"], "300.1 2 a 3 1d 4 1188f.21 f.9"⟩,
  ⟨["sylotinagri", "sylo"], "964.1 81.9 9e11.2c"⟩,
  ⟨["syriac", "syrc"], "303.1 3.1 2 16 3.2 8.1 2 2dc f.1 3 21 b.a 1b 90.d 2.3b 3.2 111.a 158e 2"⟩,
  ⟨["tagalog", "tglg"], "1700.15 a 16.1"⟩,
  ⟨["tagbanwa", "tagb"], "1735.1 2a.c 2.2 2.1"⟩,
  ⟨["taile", "tale"], "300.1 6.1 4 d34.9 907.1d 3.4"⟩,
  ⟨["takri", "takr"], "964.1 9ecb.9 6e47.39 7.9"⟩,
  ⟨["tamil", "taml"],
    "951.1 12.1 21d.1 2.5 4.2 2.3 4.1 2 2.1 4.1 4.2 4.b 5.4 4.2 2.3 3 7 f.14 10e0 8c19 6a0e 2
     38.1 c84.31 e"⟩,
  ⟨["tangut", "tang"], "2ff0.f 1f0 13df1 20.17f7 9.2ff 201.8"⟩,
  ⟨["telugu", "telu"], "951.1 12.1 29b.c 2.2 2.16 2.f 3.8 2.2 2.3 8.1 2.2 3 3.3 3.9 8.8 105b 18"⟩,
  ⟨["thaana", "thaa"], "60c f.1 3 41.9 117.31 f641 b"⟩,
  ⟨["thai"], "2bc 1b 2c 2e ad0.39 6.1b"⟩,
  ⟨["tibetan", "tibt"], "f00.47 2.23 5.26 2.23 2.e 2.6 5.1 202e.3"⟩,
  ⟨["tifinagh", "tfng"], "302 2 3 2 2a27.37 8.1 f"⟩,
  ⟨["tirhuta", "tirh"], "951.1 12.1 138d 8b3e.9 6c47.47 9.9"⟩,
  ⟨["todhri", "todr"], "301 3 3 a 2 4b 10262.33"⟩,
  ⟨["toto"], "2bc 1dfd4.1e"⟩,
  ⟨["tulutigalari", "tutg"], "ce6.9 1003 2 8b3c.5 bc 6a8f.9 2 3 2.25 2.9 2 3 2.3 2.9 2.1 9.1"⟩,
  ⟨["yezidi", "yezi"], "60c f 4 41.9 10817.29 2.2 3.1"⟩,
  ⟨["yi", "yiii"], "3001.1 6.9 3.7 e0 6f05.48c 4.36 5a9b.4"⟩]

end LivePipeline.Unicode
