/-!
# Scripts

Each word gives a value and, in hexadecimal, the number of consecutive code points that have it.
The first run begins at zero. A script is given by its code of four letters; in the extensions
several codes stand together and a hyphen stands for the script alone.
-/

namespace SchemaContract.Unicode.Data

/-- Codes with the names of the scripts. -/
def scriptNames : List String :=
  ["Adlm:Adlam Aghb:Caucasian_Albanian Ahom:Ahom Arab:Arabic Armi:Imperial_Aramaic Armn:Armenian",
   "Avst:Avestan Bali:Balinese Bamu:Bamum Bass:Bassa_Vah Batk:Batak Beng:Bengali Bhks:Bhaiksuki",
   "Bopo:Bopomofo Brah:Brahmi Brai:Braille Bugi:Buginese Buhd:Buhid Cakm:Chakma",
   "Cans:Canadian_Aboriginal Cari:Carian Cham:Cham Cher:Cherokee Chrs:Chorasmian Copt:Coptic",
   "Cpmn:Cypro_Minoan Cprt:Cypriot Cyrl:Cyrillic Deva:Devanagari Diak:Dives_Akuru Dogr:Dogra",
   "Dsrt:Deseret Dupl:Duployan Egyp:Egyptian_Hieroglyphs Elba:Elbasan Elym:Elymaic Ethi:Ethiopic",
   "Geor:Georgian Glag:Glagolitic Gong:Gunjala_Gondi Gonm:Masaram_Gondi Goth:Gothic Gran:Grantha",
   "Grek:Greek Gujr:Gujarati Guru:Gurmukhi Hang:Hangul Hani:Han Hano:Hanunoo Hatr:Hatran",
   "Hebr:Hebrew Hira:Hiragana Hluw:Anatolian_Hieroglyphs Hmng:Pahawh_Hmong",
   "Hmnp:Nyiakeng_Puachue_Hmong Hung:Old_Hungarian Ital:Old_Italic Java:Javanese Kali:Kayah_Li",
   "Kana:Katakana Kawi:Kawi Khar:Kharoshthi Khmr:Khmer Khoj:Khojki Kits:Khitan_Small_Script",
   "Knda:Kannada Kthi:Kaithi Lana:Tai_Tham Laoo:Lao Latn:Latin Lepc:Lepcha Limb:Limbu",
   "Lina:Linear_A Linb:Linear_B Lisu:Lisu Lyci:Lycian Lydi:Lydian Mahj:Mahajani Maka:Makasar",
   "Mand:Mandaic Mani:Manichaean Marc:Marchen Medf:Medefaidrin Mend:Mende_Kikakui",
   "Merc:Meroitic_Cursive Mero:Meroitic_Hieroglyphs Mlym:Malayalam Modi:Modi Mong:Mongolian",
   "Mroo:Mro Mtei:Meetei_Mayek Mult:Multani Mymr:Myanmar Nagm:Nag_Mundari Nand:Nandinagari",
   "Narb:Old_North_Arabian Nbat:Nabataean Newa:Newa Nkoo:Nko Nshu:Nushu Ogam:Ogham Olck:Ol_Chiki",
   "Orkh:Old_Turkic Orya:Oriya Osge:Osage Osma:Osmanya Ougr:Old_Uyghur Palm:Palmyrene",
   "Pauc:Pau_Cin_Hau Perm:Old_Permic Phag:Phags_Pa Phli:Inscriptional_Pahlavi",
   "Phlp:Psalter_Pahlavi Phnx:Phoenician Plrd:Miao Prti:Inscriptional_Parthian Rjng:Rejang",
   "Rohg:Hanifi_Rohingya Runr:Runic Samr:Samaritan Sarb:Old_South_Arabian Saur:Saurashtra",
   "Sgnw:SignWriting Shaw:Shavian Shrd:Sharada Sidd:Siddham Sind:Khudawadi Sinh:Sinhala",
   "Sogd:Sogdian Sogo:Old_Sogdian Sora:Sora_Sompeng Soyo:Soyombo Sund:Sundanese",
   "Sylo:Syloti_Nagri Syrc:Syriac Tagb:Tagbanwa Takr:Takri Tale:Tai_Le Talu:New_Tai_Lue",
   "Taml:Tamil Tang:Tangut Tavt:Tai_Viet Telu:Telugu Tfng:Tifinagh Tglg:Tagalog Thaa:Thaana",
   "Thai:Thai Tibt:Tibetan Tirh:Tirhuta Tnsa:Tangsa Toto:Toto Ugar:Ugaritic Vaii:Vai",
   "Vith:Vithkuqi Wara:Warang_Citi Wcho:Wancho Xpeo:Old_Persian Xsux:Cuneiform Yezi:Yezidi",
   "Yiii:Yi Zanb:Zanabazar_Square Zinh:Inherited Zyyy:Common Zzzz:Unknown Gara:Garay",
   "Gukh:Gurung_Khema Krai:Kirat_Rai Onao:Ol_Onal Sunu:Sunuwar Todr:Todhri Tutg:Tulu_Tigalari"]

def scriptRuns : List String :=
  ["Zyyy:41 Latn:1a Zyyy:6 Latn:1a Zyyy:2f Latn:1 Zyyy:f Latn:1 Zyyy:5 Latn:17 Zyyy:1 Latn:1f",
   "Zyyy:1 Latn:1c1 Zyyy:27 Latn:5 Zyyy:5 Bopo:2 Zyyy:14 Zinh:70 Grek:4 Zyyy:1 Grek:3 Zzzz:2",
   "Grek:4 Zyyy:1 Grek:1 Zzzz:4 Grek:1 Zyyy:1 Grek:1 Zyyy:1 Grek:3 Zzzz:1 Grek:1 Zzzz:1 Grek:14",
   "Zzzz:1 Grek:3f Copt:e Grek:10 Cyrl:85 Zinh:2 Cyrl:a9 Zzzz:1 Armn:26 Zzzz:2 Armn:32 Zzzz:2",
   "Armn:3 Zzzz:1 Hebr:37 Zzzz:8 Hebr:1b Zzzz:4 Hebr:6 Zzzz:b Arab:5 Zyyy:1 Arab:6 Zyyy:1 Arab:e",
   "Zyyy:1 Arab:3 Zyyy:1 Arab:20 Zyyy:1 Arab:a Zinh:b Arab:1a Zinh:1 Arab:6c Zyyy:1 Arab:22",
   "Syrc:e Zzzz:1 Syrc:3c Zzzz:2 Syrc:3 Arab:30 Thaa:32 Zzzz:e Nkoo:3b Zzzz:2 Nkoo:3 Samr:2e",
   "Zzzz:2 Samr:f Zzzz:1 Mand:1c Zzzz:2 Mand:1 Zzzz:1 Syrc:b Zzzz:5 Arab:1f Zzzz:1 Arab:2 Zzzz:5",
   "Arab:4b Zyyy:1 Arab:1d Deva:51 Zinh:4 Deva:f Zyyy:2 Deva:1a Beng:4 Zzzz:1 Beng:8 Zzzz:2",
   "Beng:2 Zzzz:2 Beng:16 Zzzz:1 Beng:7 Zzzz:1 Beng:1 Zzzz:3 Beng:4 Zzzz:2 Beng:9 Zzzz:2 Beng:2",
   "Zzzz:2 Beng:4 Zzzz:8 Beng:1 Zzzz:4 Beng:2 Zzzz:1 Beng:5 Zzzz:2 Beng:19 Zzzz:2 Guru:3 Zzzz:1",
   "Guru:6 Zzzz:4 Guru:2 Zzzz:2 Guru:16 Zzzz:1 Guru:7 Zzzz:1 Guru:2 Zzzz:1 Guru:2 Zzzz:1 Guru:2",
   "Zzzz:2 Guru:1 Zzzz:1 Guru:5 Zzzz:4 Guru:2 Zzzz:2 Guru:3 Zzzz:3 Guru:1 Zzzz:7 Guru:4 Zzzz:1",
   "Guru:1 Zzzz:7 Guru:11 Zzzz:a Gujr:3 Zzzz:1 Gujr:9 Zzzz:1 Gujr:3 Zzzz:1 Gujr:16 Zzzz:1 Gujr:7",
   "Zzzz:1 Gujr:2 Zzzz:1 Gujr:5 Zzzz:2 Gujr:a Zzzz:1 Gujr:3 Zzzz:1 Gujr:3 Zzzz:2 Gujr:1 Zzzz:f",
   "Gujr:4 Zzzz:2 Gujr:c Zzzz:7 Gujr:7 Zzzz:1 Orya:3 Zzzz:1 Orya:8 Zzzz:2 Orya:2 Zzzz:2 Orya:16",
   "Zzzz:1 Orya:7 Zzzz:1 Orya:2 Zzzz:1 Orya:5 Zzzz:2 Orya:9 Zzzz:2 Orya:2 Zzzz:2 Orya:3 Zzzz:7",
   "Orya:3 Zzzz:4 Orya:2 Zzzz:1 Orya:5 Zzzz:2 Orya:12 Zzzz:a Taml:2 Zzzz:1 Taml:6 Zzzz:3 Taml:3",
   "Zzzz:1 Taml:4 Zzzz:3 Taml:2 Zzzz:1 Taml:1 Zzzz:1 Taml:2 Zzzz:3 Taml:2 Zzzz:3 Taml:3 Zzzz:3",
   "Taml:c Zzzz:4 Taml:5 Zzzz:3 Taml:3 Zzzz:1 Taml:4 Zzzz:2 Taml:1 Zzzz:6 Taml:1 Zzzz:e Taml:15",
   "Zzzz:5 Telu:d Zzzz:1 Telu:3 Zzzz:1 Telu:17 Zzzz:1 Telu:10 Zzzz:2 Telu:9 Zzzz:1 Telu:3 Zzzz:1",
   "Telu:4 Zzzz:7 Telu:2 Zzzz:1 Telu:3 Zzzz:2 Telu:1 Zzzz:2 Telu:4 Zzzz:2 Telu:a Zzzz:7 Telu:9",
   "Knda:d Zzzz:1 Knda:3 Zzzz:1 Knda:17 Zzzz:1 Knda:a Zzzz:1 Knda:5 Zzzz:2 Knda:9 Zzzz:1 Knda:3",
   "Zzzz:1 Knda:4 Zzzz:7 Knda:2 Zzzz:6 Knda:2 Zzzz:1 Knda:4 Zzzz:2 Knda:a Zzzz:1 Knda:3 Zzzz:c",
   "Mlym:d Zzzz:1 Mlym:3 Zzzz:1 Mlym:33 Zzzz:1 Mlym:3 Zzzz:1 Mlym:6 Zzzz:4 Mlym:10 Zzzz:2",
   "Mlym:1a Zzzz:1 Sinh:3 Zzzz:1 Sinh:12 Zzzz:3 Sinh:18 Zzzz:1 Sinh:9 Zzzz:1 Sinh:1 Zzzz:2",
   "Sinh:7 Zzzz:3 Sinh:1 Zzzz:4 Sinh:6 Zzzz:1 Sinh:1 Zzzz:1 Sinh:8 Zzzz:6 Sinh:a Zzzz:2 Sinh:3",
   "Zzzz:c Thai:3a Zzzz:4 Zyyy:1 Thai:1c Zzzz:25 Laoo:2 Zzzz:1 Laoo:1 Zzzz:1 Laoo:5 Zzzz:1",
   "Laoo:18 Zzzz:1 Laoo:1 Zzzz:1 Laoo:17 Zzzz:2 Laoo:5 Zzzz:1 Laoo:1 Zzzz:1 Laoo:7 Zzzz:1 Laoo:a",
   "Zzzz:2 Laoo:4 Zzzz:20 Tibt:48 Zzzz:1 Tibt:24 Zzzz:4 Tibt:27 Zzzz:1 Tibt:24 Zzzz:1 Tibt:f",
   "Zzzz:1 Tibt:7 Zyyy:4 Tibt:2 Zzzz:25 Mymr:a0 Geor:26 Zzzz:1 Geor:1 Zzzz:5 Geor:1 Zzzz:2",
   "Geor:2b Zyyy:1 Geor:4 Hang:100 Ethi:49 Zzzz:1 Ethi:4 Zzzz:2 Ethi:7 Zzzz:1 Ethi:1 Zzzz:1",
   "Ethi:4 Zzzz:2 Ethi:29 Zzzz:1 Ethi:4 Zzzz:2 Ethi:21 Zzzz:1 Ethi:4 Zzzz:2 Ethi:7 Zzzz:1 Ethi:1",
   "Zzzz:1 Ethi:4 Zzzz:2 Ethi:f Zzzz:1 Ethi:39 Zzzz:1 Ethi:4 Zzzz:2 Ethi:43 Zzzz:2 Ethi:20",
   "Zzzz:3 Ethi:1a Zzzz:6 Cher:56 Zzzz:2 Cher:6 Zzzz:2 Cans:280 Ogam:1d Zzzz:3 Runr:4b Zyyy:3",
   "Runr:b Zzzz:7 Tglg:16 Zzzz:9 Tglg:1 Hano:15 Zyyy:2 Zzzz:9 Buhd:14 Zzzz:c Tagb:d Zzzz:1",
   "Tagb:3 Zzzz:1 Tagb:2 Zzzz:c Khmr:5e Zzzz:2 Khmr:a Zzzz:6 Khmr:a Zzzz:6 Mong:2 Zyyy:2 Mong:1",
   "Zyyy:1 Mong:14 Zzzz:6 Mong:59 Zzzz:7 Mong:2b Zzzz:5 Cans:46 Zzzz:a Limb:1f Zzzz:1 Limb:c",
   "Zzzz:4 Limb:c Zzzz:4 Limb:1 Zzzz:3 Limb:c Tale:1e Zzzz:2 Tale:5 Zzzz:b Talu:2c Zzzz:4",
   "Talu:1a Zzzz:6 Talu:b Zzzz:3 Talu:2 Khmr:20 Bugi:1c Zzzz:2 Bugi:2 Lana:3f Zzzz:1 Lana:1d",
   "Zzzz:2 Lana:b Zzzz:6 Lana:a Zzzz:6 Lana:e Zzzz:2 Zinh:1f Zzzz:31 Bali:4d Zzzz:1 Bali:32",
   "Sund:40 Batk:34 Zzzz:8 Batk:4 Lepc:38 Zzzz:3 Lepc:f Zzzz:3 Lepc:3 Olck:30 Cyrl:b Zzzz:5",
   "Geor:2b Zzzz:2 Geor:3 Sund:8 Zzzz:8 Zinh:3 Zyyy:1 Zinh:d Zyyy:1 Zinh:7 Zyyy:4 Zinh:1 Zyyy:6",
   "Zinh:1 Zyyy:3 Zinh:2 Zyyy:1 Zzzz:5 Latn:26 Grek:5 Cyrl:1 Latn:31 Grek:5 Latn:4 Grek:5 Latn:d",
   "Cyrl:1 Latn:46 Grek:1 Zinh:40 Latn:100 Grek:16 Zzzz:2 Grek:6 Zzzz:2 Grek:26 Zzzz:2 Grek:6",
   "Zzzz:2 Grek:8 Zzzz:1 Grek:1 Zzzz:1 Grek:1 Zzzz:1 Grek:1 Zzzz:1 Grek:1f Zzzz:2 Grek:35 Zzzz:1",
   "Grek:f Zzzz:1 Grek:e Zzzz:2 Grek:6 Zzzz:1 Grek:13 Zzzz:2 Grek:3 Zzzz:1 Grek:9 Zzzz:1 Zyyy:c",
   "Zinh:2 Zyyy:57 Zzzz:1 Zyyy:b Latn:1 Zzzz:2 Zyyy:b Latn:1 Zyyy:f Zzzz:1 Latn:d Zzzz:3 Zyyy:21",
   "Zzzz:f Zinh:21 Zzzz:f Zyyy:26 Grek:1 Zyyy:3 Latn:2 Zyyy:6 Latn:1 Zyyy:1b Latn:1 Zyyy:11",
   "Latn:29 Zyyy:3 Zzzz:4 Zyyy:29a Zzzz:16 Zyyy:b Zzzz:15 Zyyy:3a0 Brai:100 Zyyy:274 Zzzz:2",
   "Zyyy:20 Zzzz:1 Zyyy:69 Glag:60 Latn:20 Copt:74 Zzzz:5 Copt:7 Geor:26 Zzzz:1 Geor:1 Zzzz:5",
   "Geor:1 Zzzz:2 Tfng:38 Zzzz:7 Tfng:2 Zzzz:e Tfng:1 Ethi:17 Zzzz:9 Ethi:7 Zzzz:1 Ethi:7 Zzzz:1",
   "Ethi:7 Zzzz:1 Ethi:7 Zzzz:1 Ethi:7 Zzzz:1 Ethi:7 Zzzz:1 Ethi:7 Zzzz:1 Ethi:7 Zzzz:1 Cyrl:20",
   "Zyyy:5e Zzzz:22 Hani:1a Zzzz:1 Hani:59 Zzzz:c Hani:d6 Zzzz:1a Zyyy:15 Hani:1 Zyyy:1 Hani:1",
   "Zyyy:19 Hani:9 Zinh:4 Hang:2 Zyyy:8 Hani:4 Zyyy:4 Zzzz:1 Hira:56 Zzzz:2 Zinh:2 Zyyy:2 Hira:3",
   "Zyyy:1 Kana:5a Zyyy:2 Kana:3 Zzzz:5 Bopo:2b Zzzz:1 Hang:5e Zzzz:1 Zyyy:10 Bopo:20 Zyyy:26",
   "Zzzz:9 Zyyy:1 Kana:10 Hang:1f Zzzz:1 Zyyy:40 Hang:1f Zyyy:51 Kana:2f Zyyy:1 Kana:58 Zyyy:a8",
   "Hani:19c0 Zyyy:40 Hani:5200 Yiii:48d Zzzz:3 Yiii:37 Zzzz:9 Lisu:30 Vaii:12c Zzzz:14 Cyrl:60",
   "Bamu:58 Zzzz:8 Zyyy:22 Latn:66 Zyyy:3 Latn:43 Zzzz:2 Latn:2 Zzzz:1 Latn:1 Zzzz:1 Latn:8",
   "Zzzz:15 Latn:e Sylo:2d Zzzz:3 Zyyy:a Zzzz:6 Phag:38 Zzzz:8 Saur:46 Zzzz:8 Saur:c Zzzz:6",
   "Deva:20 Kali:2e Zyyy:1 Kali:1 Rjng:24 Zzzz:b Rjng:1 Hang:1d Zzzz:3 Java:4e Zzzz:1 Zyyy:1",
   "Java:a Zzzz:4 Java:2 Mymr:1f Zzzz:1 Cham:37 Zzzz:9 Cham:e Zzzz:2 Cham:a Zzzz:2 Cham:4",
   "Mymr:20 Tavt:43 Zzzz:18 Tavt:5 Mtei:17 Zzzz:a Ethi:6 Zzzz:2 Ethi:6 Zzzz:2 Ethi:6 Zzzz:9",
   "Ethi:7 Zzzz:1 Ethi:7 Zzzz:1 Latn:2b Zyyy:1 Latn:9 Grek:1 Latn:4 Zyyy:2 Zzzz:4 Cher:50",
   "Mtei:2e Zzzz:2 Mtei:a Zzzz:6 Hang:2ba4 Zzzz:c Hang:17 Zzzz:4 Hang:31 Zzzz:2104 Hani:16e",
   "Zzzz:2 Hani:6a Zzzz:26 Latn:7 Zzzz:c Armn:5 Zzzz:5 Hebr:1a Zzzz:1 Hebr:5 Zzzz:1 Hebr:1",
   "Zzzz:1 Hebr:2 Zzzz:1 Hebr:2 Zzzz:1 Hebr:a Arab:73 Zzzz:10 Arab:16b Zyyy:2 Arab:50 Zzzz:2",
   "Arab:36 Zzzz:7 Arab:1 Zzzz:20 Arab:10 Zinh:10 Zyyy:a Zzzz:6 Zinh:e Cyrl:2 Zyyy:23 Zzzz:1",
   "Zyyy:13 Zzzz:1 Zyyy:4 Zzzz:4 Arab:5 Zzzz:1 Arab:87 Zzzz:2 Zyyy:1 Zzzz:1 Zyyy:20 Latn:1a",
   "Zyyy:6 Latn:1a Zyyy:b Kana:a Zyyy:1 Kana:2d Zyyy:2 Hang:1f Zzzz:3 Hang:6 Zzzz:2 Hang:6",
   "Zzzz:2 Hang:6 Zzzz:2 Hang:3 Zzzz:3 Zyyy:7 Zzzz:1 Zyyy:7 Zzzz:a Zyyy:5 Zzzz:2 Linb:c Zzzz:1",
   "Linb:1a Zzzz:1 Linb:13 Zzzz:1 Linb:2 Zzzz:1 Linb:f Zzzz:2 Linb:e Zzzz:22 Linb:7b Zzzz:5",
   "Zyyy:3 Zzzz:4 Zyyy:2d Zzzz:3 Zyyy:9 Grek:4f Zzzz:1 Zyyy:d Zzzz:3 Grek:1 Zzzz:2f Zyyy:2d",
   "Zinh:1 Zzzz:82 Lyci:1d Zzzz:3 Cari:31 Zzzz:f Zinh:1 Zyyy:1b Zzzz:4 Ital:24 Zzzz:9 Ital:3",
   "Goth:1b Zzzz:5 Perm:2b Zzzz:5 Ugar:1e Zzzz:1 Ugar:1 Xpeo:24 Zzzz:4 Xpeo:e Zzzz:2a Dsrt:50",
   "Shaw:30 Osma:1e Zzzz:2 Osma:a Zzzz:6 Osge:24 Zzzz:4 Osge:24 Zzzz:4 Elba:28 Zzzz:8 Aghb:34",
   "Zzzz:b Aghb:1 Vith:b Zzzz:1 Vith:f Zzzz:1 Vith:7 Zzzz:1 Vith:2 Zzzz:1 Vith:b Zzzz:1 Vith:f",
   "Zzzz:1 Vith:7 Zzzz:1 Vith:2 Zzzz:3 Todr:34 Zzzz:c Lina:137 Zzzz:9 Lina:16 Zzzz:a Lina:8",
   "Zzzz:18 Latn:6 Zzzz:1 Latn:2a Zzzz:1 Latn:9 Zzzz:45 Cprt:6 Zzzz:2 Cprt:1 Zzzz:1 Cprt:2c",
   "Zzzz:1 Cprt:2 Zzzz:3 Cprt:1 Zzzz:2 Cprt:1 Armi:16 Zzzz:1 Armi:9 Palm:20 Nbat:1f Zzzz:8",
   "Nbat:9 Zzzz:30 Hatr:13 Zzzz:1 Hatr:2 Zzzz:5 Hatr:5 Phnx:1c Zzzz:3 Phnx:1 Lydi:1a Zzzz:5",
   "Lydi:1 Zzzz:40 Mero:20 Merc:18 Zzzz:4 Merc:14 Zzzz:2 Merc:2e Khar:4 Zzzz:1 Khar:2 Zzzz:5",
   "Khar:8 Zzzz:1 Khar:3 Zzzz:1 Khar:1d Zzzz:2 Khar:3 Zzzz:4 Khar:a Zzzz:7 Khar:9 Zzzz:7 Sarb:20",
   "Narb:20 Zzzz:20 Mani:27 Zzzz:4 Mani:c Zzzz:9 Avst:36 Zzzz:3 Avst:7 Prti:16 Zzzz:2 Prti:8",
   "Phli:13 Zzzz:5 Phli:8 Phlp:12 Zzzz:7 Phlp:4 Zzzz:c Phlp:7 Zzzz:50 Orkh:49 Zzzz:37 Hung:33",
   "Zzzz:d Hung:33 Zzzz:7 Hung:6 Rohg:28 Zzzz:8 Rohg:a Zzzz:6 Gara:26 Zzzz:3 Gara:1d Zzzz:8",
   "Gara:2 Zzzz:d0 Arab:1f Zzzz:1 Yezi:2a Zzzz:1 Yezi:3 Zzzz:2 Yezi:2 Zzzz:10 Arab:3 Zzzz:37",
   "Arab:4 Sogo:28 Zzzz:8 Sogd:2a Zzzz:16 Ougr:1a Zzzz:26 Chrs:1c Zzzz:14 Elym:17 Zzzz:9 Brah:4e",
   "Zzzz:4 Brah:24 Zzzz:9 Brah:1 Kthi:43 Zzzz:a Kthi:1 Zzzz:2 Sora:19 Zzzz:7 Sora:a Zzzz:6",
   "Cakm:35 Zzzz:1 Cakm:12 Zzzz:8 Mahj:27 Zzzz:9 Shrd:60 Zzzz:1 Sinh:14 Zzzz:b Khoj:12 Zzzz:1",
   "Khoj:2f Zzzz:3e Mult:7 Zzzz:1 Mult:1 Zzzz:1 Mult:4 Zzzz:1 Mult:f Zzzz:1 Mult:b Zzzz:6",
   "Sind:3b Zzzz:5 Sind:a Zzzz:6 Gran:4 Zzzz:1 Gran:8 Zzzz:2 Gran:2 Zzzz:2 Gran:16 Zzzz:1 Gran:7",
   "Zzzz:1 Gran:2 Zzzz:1 Gran:5 Zzzz:1 Zinh:1 Gran:9 Zzzz:2 Gran:2 Zzzz:2 Gran:3 Zzzz:2 Gran:1",
   "Zzzz:6 Gran:1 Zzzz:5 Gran:7 Zzzz:2 Gran:7 Zzzz:3 Gran:5 Zzzz:b Tutg:a Zzzz:1 Tutg:1 Zzzz:2",
   "Tutg:1 Zzzz:1 Tutg:26 Zzzz:1 Tutg:a Zzzz:1 Tutg:1 Zzzz:2 Tutg:1 Zzzz:1 Tutg:4 Zzzz:1 Tutg:a",
   "Zzzz:1 Tutg:2 Zzzz:8 Tutg:2 Zzzz:1d Newa:5c Zzzz:1 Newa:5 Zzzz:1e Tirh:48 Zzzz:8 Tirh:a",
   "Zzzz:a6 Sidd:36 Zzzz:2 Sidd:26 Zzzz:22 Modi:45 Zzzz:b Modi:a Zzzz:6 Mong:d Zzzz:13 Takr:3a",
   "Zzzz:6 Takr:a Zzzz:6 Mymr:14 Zzzz:1c Ahom:1b Zzzz:2 Ahom:f Zzzz:4 Ahom:17 Zzzz:b9 Dogr:3c",
   "Zzzz:64 Wara:53 Zzzz:c Wara:1 Diak:7 Zzzz:2 Diak:1 Zzzz:2 Diak:8 Zzzz:1 Diak:2 Zzzz:1",
   "Diak:1e Zzzz:1 Diak:2 Zzzz:2 Diak:c Zzzz:9 Diak:a Zzzz:46 Nand:8 Zzzz:2 Nand:2e Zzzz:2",
   "Nand:b Zzzz:1b Zanb:48 Zzzz:8 Soyo:53 Zzzz:d Cans:10 Pauc:39 Zzzz:7 Deva:a Zzzz:b6 Sunu:22",
   "Zzzz:e Sunu:a Zzzz:6 Bhks:9 Zzzz:1 Bhks:2d Zzzz:1 Bhks:e Zzzz:a Bhks:1d Zzzz:3 Marc:20",
   "Zzzz:2 Marc:16 Zzzz:1 Marc:e Zzzz:49 Gonm:7 Zzzz:1 Gonm:2 Zzzz:1 Gonm:2c Zzzz:3 Gonm:1",
   "Zzzz:1 Gonm:2 Zzzz:1 Gonm:9 Zzzz:8 Gonm:a Zzzz:6 Gong:6 Zzzz:1 Gong:2 Zzzz:1 Gong:25 Zzzz:1",
   "Gong:2 Zzzz:1 Gong:6 Zzzz:7 Gong:a Zzzz:136 Maka:19 Zzzz:7 Kawi:11 Zzzz:1 Kawi:29 Zzzz:3",
   "Kawi:1d Zzzz:55 Lisu:1 Zzzz:f Taml:32 Zzzz:d Taml:1 Xsux:39a Zzzz:66 Xsux:6f Zzzz:1 Xsux:5",
   "Zzzz:b Xsux:c4 Zzzz:a4c Cpmn:63 Zzzz:d Egyp:456 Zzzz:a Egyp:f9b Zzzz:5 Hluw:247 Zzzz:1ab9",
   "Gukh:3a Zzzz:6c6 Bamu:239 Zzzz:7 Mroo:1f Zzzz:1 Mroo:a Zzzz:4 Mroo:2 Tnsa:4f Zzzz:1 Tnsa:a",
   "Zzzz:6 Bass:1e Zzzz:2 Bass:6 Zzzz:a Hmng:46 Zzzz:a Hmng:a Zzzz:1 Hmng:7 Zzzz:1 Hmng:15",
   "Zzzz:5 Hmng:13 Zzzz:1b0 Krai:3a Zzzz:c6 Medf:5b Zzzz:65 Plrd:4b Zzzz:4 Plrd:39 Zzzz:7",
   "Plrd:11 Zzzz:40 Tang:1 Nshu:1 Hani:2 Kits:1 Zzzz:b Hani:2 Zzzz:e Tang:17f8 Zzzz:8 Tang:300",
   "Kits:1d6 Zzzz:29 Kits:1 Tang:9 Zzzz:22e7 Kana:4 Zzzz:1 Kana:7 Zzzz:1 Kana:2 Zzzz:1 Kana:1",
   "Hira:11f Kana:3 Zzzz:f Hira:1 Zzzz:1d Hira:3 Zzzz:2 Kana:1 Zzzz:e Kana:4 Zzzz:8 Nshu:18c",
   "Zzzz:904 Dupl:6b Zzzz:5 Dupl:d Zzzz:3 Dupl:9 Zzzz:7 Dupl:a Zzzz:2 Dupl:4 Zyyy:4 Zzzz:f5c",
   "Zyyy:fa Zzzz:6 Zyyy:1b4 Zzzz:4c Zinh:2e Zzzz:2 Zinh:17 Zzzz:9 Zyyy:74 Zzzz:3c Zyyy:f6 Zzzz:a",
   "Zyyy:27 Zzzz:2 Zyyy:3e Zinh:3 Zyyy:11 Zinh:8 Zyyy:2 Zinh:7 Zyyy:1e Zinh:4 Zyyy:3d Zzzz:15",
   "Grek:46 Zzzz:7a Zyyy:14 Zzzz:c Zyyy:14 Zzzz:c Zyyy:57 Zzzz:9 Zyyy:19 Zzzz:87 Zyyy:55 Zzzz:1",
   "Zyyy:47 Zzzz:1 Zyyy:2 Zzzz:2 Zyyy:1 Zzzz:2 Zyyy:2 Zzzz:2 Zyyy:4 Zzzz:1 Zyyy:c Zzzz:1 Zyyy:1",
   "Zzzz:1 Zyyy:7 Zzzz:1 Zyyy:41 Zzzz:1 Zyyy:4 Zzzz:2 Zyyy:8 Zzzz:1 Zyyy:7 Zzzz:1 Zyyy:1c Zzzz:1",
   "Zyyy:4 Zzzz:1 Zyyy:5 Zzzz:1 Zyyy:1 Zzzz:3 Zyyy:7 Zzzz:1 Zyyy:154 Zzzz:2 Zyyy:124 Zzzz:2",
   "Zyyy:32 Sgnw:28c Zzzz:f Sgnw:5 Zzzz:1 Sgnw:f Zzzz:450 Latn:1f Zzzz:6 Latn:6 Zzzz:d5 Glag:7",
   "Zzzz:1 Glag:11 Zzzz:2 Glag:7 Zzzz:1 Glag:2 Zzzz:1 Glag:5 Zzzz:5 Cyrl:3e Zzzz:21 Cyrl:1",
   "Zzzz:70 Hmnp:2d Zzzz:3 Hmnp:e Zzzz:2 Hmnp:a Zzzz:4 Hmnp:2 Zzzz:140 Toto:1f Zzzz:11 Wcho:3a",
   "Zzzz:5 Wcho:1 Zzzz:1d0 Nagm:2a Zzzz:d6 Onao:2b Zzzz:4 Onao:1 Zzzz:1e0 Ethi:7 Zzzz:1 Ethi:4",
   "Zzzz:1 Ethi:2 Zzzz:1 Ethi:f Zzzz:1 Mend:c5 Zzzz:2 Mend:10 Zzzz:29 Adlm:4c Zzzz:4 Adlm:a",
   "Zzzz:4 Adlm:2 Zzzz:311 Zyyy:44 Zzzz:4c Zyyy:3d Zzzz:c2 Arab:4 Zzzz:1 Arab:1b Zzzz:1 Arab:2",
   "Zzzz:1 Arab:1 Zzzz:2 Arab:1 Zzzz:1 Arab:a Zzzz:1 Arab:4 Zzzz:1 Arab:1 Zzzz:1 Arab:1 Zzzz:6",
   "Arab:1 Zzzz:4 Arab:1 Zzzz:1 Arab:1 Zzzz:1 Arab:1 Zzzz:1 Arab:3 Zzzz:1 Arab:2 Zzzz:1 Arab:1",
   "Zzzz:2 Arab:1 Zzzz:1 Arab:1 Zzzz:1 Arab:1 Zzzz:1 Arab:1 Zzzz:1 Arab:1 Zzzz:1 Arab:2 Zzzz:1",
   "Arab:1 Zzzz:2 Arab:4 Zzzz:1 Arab:7 Zzzz:1 Arab:4 Zzzz:1 Arab:4 Zzzz:1 Arab:1 Zzzz:1 Arab:a",
   "Zzzz:1 Arab:11 Zzzz:5 Arab:3 Zzzz:1 Arab:5 Zzzz:1 Arab:11 Zzzz:34 Arab:2 Zzzz:10e Zyyy:2c",
   "Zzzz:4 Zyyy:64 Zzzz:c Zyyy:f Zzzz:2 Zyyy:f Zzzz:1 Zyyy:f Zzzz:1 Zyyy:25 Zzzz:a Zyyy:ae",
   "Zzzz:38 Zyyy:1a Hira:1 Zyyy:2 Zzzz:d Zyyy:2c Zzzz:4 Zyyy:9 Zzzz:7 Zyyy:2 Zzzz:e Zyyy:6",
   "Zzzz:9a Zyyy:3d8 Zzzz:4 Zyyy:11 Zzzz:3 Zyyy:d Zzzz:3 Zyyy:77 Zzzz:4 Zyyy:5f Zzzz:6 Zyyy:c",
   "Zzzz:4 Zyyy:1 Zzzz:f Zyyy:c Zzzz:4 Zyyy:38 Zzzz:8 Zyyy:a Zzzz:6 Zyyy:28 Zzzz:8 Zyyy:1e",
   "Zzzz:2 Zyyy:c Zzzz:4 Zyyy:2 Zzzz:3e Zyyy:154 Zzzz:c Zyyy:e Zzzz:2 Zyyy:d Zzzz:3 Zyyy:a",
   "Zzzz:5 Zyyy:38 Zzzz:7 Zyyy:f Zzzz:2 Zyyy:b Zzzz:6 Zyyy:9 Zzzz:7 Zyyy:93 Zzzz:1 Zyyy:66",
   "Zzzz:406 Hani:a6e0 Zzzz:20 Hani:103a Zzzz:6 Hani:de Zzzz:2 Hani:1682 Zzzz:e Hani:1d31 Zzzz:f",
   "Hani:26e Zzzz:9a2 Hani:21e Zzzz:5e2 Hani:134b Zzzz:5 Hani:1060 Zzzz:adc51 Zyyy:1 Zzzz:1e",
   "Zyyy:60 Zzzz:80 Zinh:f0 Zzzz:2fe10"]

def scriptExtensionRuns : List String :=
  ["-:b7 AvstCariCoptDuplElbaGeorGlagGongGothGrekHaniLatnLydiMahjPermShaw:1 -:204",
   "BengCyrlDevaLatnLisuThaiToto:1 -:a BopoLatn:1 -:1 BopoLatn:3 -:1 LatnLisu:1 -:9 LatnThai:1",
   "-:1 BopoLatn:1 -:26 CherCoptCyrlGrekLatnPermSunuTale:1 CherCyrlGrekLatnOsgeSunuTaleTodr:1",
   "CherCyrlLatnTfng:1 GlagLatnSunuSyrcThai:1 AghbCherCoptCyrlGothGrekLatnOsgeSyrcTfngTodr:1",
   "CoptElbaGlagGothKanaLatn:1 CyrlGrekLatnPermTfng:1 CoptDuplHebrLatnPermSyrcTaleTfngTodr:1",
   "ArmnCyrlDuplGothGrekHebrLatnPermSyrcTaleTfng:1 LatnTfng:1 DuplLatnSyrc:1 CherCyrlLatnOsge:1",
   "CherLatnTale:1 LatnSunu:1 EthiLatn:1 -:1 LatnSunu:1 CyrlLatnTodr:1 -:1 GrekLatnPermTodr:1",
   "-:f CherDuplKanaLatnSyrcTfng:1 CherDuplLatnSyrc:1 LatnSyrc:1 -:7 LatnSunuSyrc:1 LatnSyrc:1",
   "-:1 CherLatnSyrc:1 AghbCherGothLatnSunuSyrcThai:1 -:10 Grek:1 -:2 Grek:1 -:12 LatnOsge:1 -:5",
   "AghbLatnTodr:1 -:4 Latn:d -:4 CoptGrek:2 -:10d CyrlPerm:1 CyrlGlag:1 CyrlLatn:2 CyrlGlag:1",
   "-:101 ArmnGeorGlag:1 -:82 ArabGaraNkooRohgSyrcThaaYezi:1 -:e ArabGaraNkooRohgSyrcThaaYezi:1",
   "ArabSyrcThaa:1 -:2 AdlmArabGaraNkooRohgSyrcThaaYezi:1 -:20",
   "AdlmArabMandManiOugrPhlpRohgSogdSyrc:1 -:a ArabSyrc:b -:a ArabThaaYezi:a -:6 ArabSyrc:1 -:63",
   "ArabRohg:1 -:27c BengDevaGranGujrGuruKndaLatnMlymNandNewaOryaShrdTamlTeluTirh:1",
   "BengDevaGranGujrGuruKndaLatnMlymNewaOryaTamlTeluTirh:1 -:11",
   "BengDevaDogrGongGonmGranGujrGuruKndaMahjMlymNandOnaoOryaSindSinhSyloTakrTamlTeluTirh:1",
   "BengDevaDogrGongGonmGranGujrGukhGuruKndaLimbMahjMlymNandOnaoOryaSindSinhSyloTakrTamlTeluTirh:1",
   "DevaDogrKthiMahj:a -:76 BengCakmSylo:a -:76 GuruMult:a -:76 GujrKhoj:a -:f6 GranTaml:e -:f2",
   "KndaNandTutg:a -:350 CakmMymrTale:a -:b1 GeorGlagLatn:1 -:5ef Runr:3 -:47 BuhdHanoTagbTglg:2",
   "-:cb MongPhag:2 -:1 MongPhag:1 -:4ca BengDevaGranKnda:1 Deva:1 BengDevaGranKnda:1",
   "DevaGranKnda:1 Deva:1 BengDevaNewaTeluTirh:1 BengDevaTelu:1 DevaNewaShrd:1",
   "BengDevaNewaTelu:1 DevaShrd:1 DevaKndaMlymOryaTamlTelu:1 Deva:1 DevaShrd:2 Deva:2 DevaShrd:1",
   "BengDeva:1 DevaNewaTirh:1 Deva:6 DevaNandNewa:1 BengDevaShrd:1 DevaNewa:1 Deva:1",
   "BengDevaNewaShrd:1 Deva:4 BengDevaGranKndaMlymNandOryaSinhTeluTirhTutg:1 DevaGran:1",
   "DevaGranKndaTutg:1 BengDeva:2 Beng:1 DevaGran:2 Nand:1 -:c5 Grek:2 -:36 CyrlLatnSyrc:1 -:1",
   "Syrc:1 -:234 LatnMongPhag:1 -:1f AdlmArab:1 -:a CariGeorGlagHungLyciOrkh:1 -:2",
   "CariGrekHungMero:1 -:92 DevaGranLatn:1 -:d26 CoptLatn:1 -:18 AvstOrkh:1",
   "AvstCariGeorHungKthiLydiSamr:1 -:a Dupl:1 -:4 AdlmArabHung:1 -:1 CyrlGlag:1 -:1ac",
   "HaniTang:10 -:1 BopoHangHaniHiraKanaMongYiii:1 BopoHangHaniHiraKanaMongPhagYiii:1",
   "BopoHangHaniHiraKana:1 -:2 Hani:1 -:1 BopoHangHaniHiraKanaMongTibtYiii:2",
   "BopoHangHaniHiraKanaLisuMongTibtYiii:2 BopoHangHaniHiraKanaYiii:6 -:1 BopoHangHaniHiraKana:1",
   "BopoHangHaniHiraKanaYiii:8 BopoHangHaniHiraKana:4 -:a BopoHani:4 -:2 BopoHangHaniHiraKana:1",
   "HiraKana:5 -:1 BopoHangHaniHiraKana:1 -:4 HaniHiraKana:2 Hani:2 -:59 HiraKana:4 -:3",
   "HiraKana:1 -:5a BopoHangHaniHiraKanaYiii:1 HiraKana:1 -:93 Hani:10 -:20 Hani:26 -:9",
   "HaniTang:1 -:30 Hani:28 -:38 Hani:31 -:f Hani:c -:33 Hani:1 -:58 Hani:19 -:a Hani:5 -:60",
   "Hani:1f -:7270 CyrlGlag:1 -:90 HaniLatn:8 -:128",
   "DevaDogrGujrGuruKhojKndaKthiMahjMlymModiNandShrdSindTakrTirhTutg:3",
   "DevaDogrGujrGuruKhojKndaKthiMahjModiNandShrdSindTakrTirhTutg:3",
   "DevaDogrGujrGuruKhojKthiMahjModiSindTakrTirh:2",
   "DevaDogrGujrGuruKhojKthiMahjModiShrdSindTakrTirh:1",
   "DevaDogrGujrGuruKhojKthiMahjModiSindTakrTirh:1 -:b7 BengDevaTutg:1 -:1 DevaTaml:1 -:3a",
   "KaliLatnMymr:1 -:a0 BugiJava:1 -:536e ArabNkoo:2 -:b2 ArabThaa:1 -:a ArabThaa:1 -:47",
   "BopoHangHaniHiraKana:2 -:11a BopoHangHaniHiraKanaYiii:5 -:a HiraKana:1 -:2d HiraKana:2 -:160",
   "CpmnCprtLinb:2 CprtLinb:1 -:4 CprtLinaLinb:2d -:3 CprtLinb:9 -:1a0 ArabCopt:1c -:7f6",
   "ManiOugr:1 -:80e GranTaml:1 -:1 GranTaml:1 -:37 GranTaml:2 -:c93 GranTaml:2 -:1 GranTaml:1",
   "-:9ccc Dupl:4 -:16bc Hani:12 -:1ede Hani:2 -:f0dae"]

end SchemaContract.Unicode.Data
