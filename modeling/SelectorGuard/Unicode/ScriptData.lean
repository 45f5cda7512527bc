/-!
# Runs of the Script and Script_Extensions properties

The code space is cut into maximal runs of equal Script. An entry "Latn:1A" stands for 0x1A code
points of script Latn, and the label Zzzz marks code points without a script.

A code point may have several Script_Extensions. They are listed script by script, with the
lengths of the alternating runs of code points outside and inside; whatever follows the last run
is outside.
-/

namespace SelectorGuard.Unicode

/-- Script of every code point, as runs in code point order. -/
def scriptRuns : List String := [
  "Zyyy:41 Latn:1A Zyyy:6 Latn:1A Zyyy:2F Latn:1 Zyyy:F Latn:1 Zyyy:5 Latn:17 Zyyy:1 Latn:1F",
  "Zyyy:1 Latn:1C1 Zyyy:27 Latn:5 Zyyy:5 Bopo:2 Zyyy:14 Zinh:70 Grek:4 Zyyy:1 Grek:3 Zzzz:2",
  "Grek:4 Zyyy:1 Grek:1 Zzzz:4 Grek:1 Zyyy:1 Grek:1 Zyyy:1 Grek:3 Zzzz:1 Grek:1 Zzzz:1 Grek:14",
  "Zzzz:1 Grek:3F Copt:E Grek:10 Cyrl:85 Zinh:2 Cyrl:A9 Zzzz:1 Armn:26 Zzzz:2 Armn:32 Zzzz:2",
  "Armn:3 Zzzz:1 Hebr:37 Zzzz:8 Hebr:1B Zzzz:4 Hebr:6 Zzzz:B Arab:5 Zyyy:1 Arab:6 Zyyy:1 Arab:E",
  "Zyyy:1 Arab:3 Zyyy:1 Arab:20 Zyyy:1 Arab:A Zinh:B Arab:1A Zinh:1 Arab:6C Zyyy:1 Arab:22",
  "Syrc:E Zzzz:1 Syrc:3C Zzzz:2 Syrc:3 Arab:30 Thaa:32 Zzzz:E Nkoo:3B Zzzz:2 Nkoo:3 Samr:2E",
  "Zzzz:2 Samr:F Zzzz:1 Mand:1C Zzzz:2 Mand:1 Zzzz:1 Syrc:B Zzzz:5 Arab:1F Zzzz:1 Arab:2 Zzzz:5",
  "Arab:4B Zyyy:1 Arab:1D Deva:51 Zinh:4 Deva:F Zyyy:2 Deva:1A Beng:4 Zzzz:1 Beng:8 Zzzz:2",
  "Beng:2 Zzzz:2 Beng:16 Zzzz:1 Beng:7 Zzzz:1 Beng:1 Zzzz:3 Beng:4 Zzzz:2 Beng:9 Zzzz:2 Beng:2",
  "Zzzz:2 Beng:4 Zzzz:8 Beng:1 Zzzz:4 Beng:2 Zzzz:1 Beng:5 Zzzz:2 Beng:19 Zzzz:2 Guru:3 Zzzz:1",
  "Guru:6 Zzzz:4 Guru:2 Zzzz:2 Guru:16 Zzzz:1 Guru:7 Zzzz:1 Guru:2 Zzzz:1 Guru:2 Zzzz:1 Guru:2",
  "Zzzz:2 Guru:1 Zzzz:1 Guru:5 Zzzz:4 Guru:2 Zzzz:2 Guru:3 Zzzz:3 Guru:1 Zzzz:7 Guru:4 Zzzz:1",
  "Guru:1 Zzzz:7 Guru:11 Zzzz:A Gujr:3 Zzzz:1 Gujr:9 Zzzz:1 Gujr:3 Zzzz:1 Gujr:16 Zzzz:1 Gujr:7",
  "Zzzz:1 Gujr:2 Zzzz:1 Gujr:5 Zzzz:2 Gujr:A Zzzz:1 Gujr:3 Zzzz:1 Gujr:3 Zzzz:2 Gujr:1 Zzzz:F",
  "Gujr:4 Zzzz:2 Gujr:C Zzzz:7 Gujr:7 Zzzz:1 Orya:3 Zzzz:1 Orya:8 Zzzz:2 Orya:2 Zzzz:2 Orya:16",
  "Zzzz:1 Orya:7 Zzzz:1 Orya:2 Zzzz:1 Orya:5 Zzzz:2 Orya:9 Zzzz:2 Orya:2 Zzzz:2 Orya:3 Zzzz:7",
  "Orya:3 Zzzz:4 Orya:2 Zzzz:1 Orya:5 Zzzz:2 Orya:12 Zzzz:A Taml:2 Zzzz:1 Taml:6 Zzzz:3 Taml:3",
  "Zzzz:1 Taml:4 Zzzz:3 Taml:2 Zzzz:1 Taml:1 Zzzz:1 Taml:2 Zzzz:3 Taml:2 Zzzz:3 Taml:3 Zzzz:3",
  "Taml:C Zzzz:4 Taml:5 Zzzz:3 Taml:3 Zzzz:1 Taml:4 Zzzz:2 Taml:1 Zzzz:6 Taml:1 Zzzz:E Taml:15",
  "Zzzz:5 Telu:D Zzzz:1 Telu:3 Zzzz:1 Telu:17 Zzzz:1 Telu:10 Zzzz:2 Telu:9 Zzzz:1 Telu:3 Zzzz:1",
  "Telu:4 Zzzz:7 Telu:2 Zzzz:1 Telu:3 Zzzz:2 Telu:1 Zzzz:2 Telu:4 Zzzz:2 Telu:A Zzzz:7 Telu:9",
  "Knda:D Zzzz:1 Knda:3 Zzzz:1 Knda:17 Zzzz:1 Knda:A Zzzz:1 Knda:5 Zzzz:2 Knda:9 Zzzz:1 Knda:3",
  "Zzzz:1 Knda:4 Zzzz:7 Knda:2 Zzzz:6 Knda:2 Zzzz:1 Knda:4 Zzzz:2 Knda:A Zzzz:1 Knda:3 Zzzz:C",
  "Mlym:D Zzzz:1 Mlym:3 Zzzz:1 Mlym:33 Zzzz:1 Mlym:3 Zzzz:1 Mlym:6 Zzzz:4 Mlym:10 Zzzz:2",
  "Mlym:1A Zzzz:1 Sinh:3 Zzzz:1 Sinh:12 Zzzz:3 Sinh:18 Zzzz:1 Sinh:9 Zzzz:1 Sinh:1 Zzzz:2",
  "Sinh:7 Zzzz:3 Sinh:1 Zzzz:4 Sinh:6 Zzzz:1 Sinh:1 Zzzz:1 Sinh:8 Zzzz:6 Sinh:A Zzzz:2 Sinh:3",
  "Zzzz:C Thai:3A Zzzz:4 Zyyy:1 Thai:1C Zzzz:25 Laoo:2 Zzzz:1 Laoo:1 Zzzz:1 Laoo:5 Zzzz:1",
  "Laoo:18 Zzzz:1 Laoo:1 Zzzz:1 Laoo:17 Zzzz:2 Laoo:5 Zzzz:1 Laoo:1 Zzzz:1 Laoo:7 Zzzz:1 Laoo:A",
  "Zzzz:2 Laoo:4 Zzzz:20 Tibt:48 Zzzz:1 Tibt:24 Zzzz:4 Tibt:27 Zzzz:1 Tibt:24 Zzzz:1 Tibt:F",
  "Zzzz:1 Tibt:7 Zyyy:4 Tibt:2 Zzzz:25 Mymr:A0 Geor:26 Zzzz:1 Geor:1 Zzzz:5 Geor:1 Zzzz:2",
  "Geor:2B Zyyy:1 Geor:4 Hang:100 Ethi:49 Zzzz:1 Ethi:4 Zzzz:2 Ethi:7 Zzzz:1 Ethi:1 Zzzz:1",
  "Ethi:4 Zzzz:2 Ethi:29 Zzzz:1 Ethi:4 Zzzz:2 Ethi:21 Zzzz:1 Ethi:4 Zzzz:2 Ethi:7 Zzzz:1 Ethi:1",
  "Zzzz:1 Ethi:4 Zzzz:2 Ethi:F Zzzz:1 Ethi:39 Zzzz:1 Ethi:4 Zzzz:2 Ethi:43 Zzzz:2 Ethi:20",
  "Zzzz:3 Ethi:1A Zzzz:6 Cher:56 Zzzz:2 Cher:6 Zzzz:2 Cans:280 Ogam:1D Zzzz:3 Runr:4B Zyyy:3",
  "Runr:B Zzzz:7 Tglg:16 Zzzz:9 Tglg:1 Hano:15 Zyyy:2 Zzzz:9 Buhd:14 Zzzz:C Tagb:D Zzzz:1",
  "Tagb:3 Zzzz:1 Tagb:2 Zzzz:C Khmr:5E Zzzz:2 Khmr:A Zzzz:6 Khmr:A Zzzz:6 Mong:2 Zyyy:2 Mong:1",
  "Zyyy:1 Mong:14 Zzzz:6 Mong:59 Zzzz:7 Mong:2B Zzzz:5 Cans:46 Zzzz:A Limb:1F Zzzz:1 Limb:C",
  "Zzzz:4 Limb:C Zzzz:4 Limb:1 Zzzz:3 Limb:C Tale:1E Zzzz:2 Tale:5 Zzzz:B Talu:2C Zzzz:4",
  "Talu:1A Zzzz:6 Talu:B Zzzz:3 Talu:2 Khmr:20 Bugi:1C Zzzz:2 Bugi:2 Lana:3F Zzzz:1 Lana:1D",
  "Zzzz:2 Lana:B Zzzz:6 Lana:A Zzzz:6 Lana:E Zzzz:2 Zinh:1F Zzzz:31 Bali:4D Zzzz:1 Bali:32",
  "Sund:40 Batk:34 Zzzz:8 Batk:4 Lepc:38 Zzzz:3 Lepc:F Zzzz:3 Lepc:3 Olck:30 Cyrl:B Zzzz:5",
  "Geor:2B Zzzz:2 Geor:3 Sund:8 Zzzz:8 Zinh:3 Zyyy:1 Zinh:D Zyyy:1 Zinh:7 Zyyy:4 Zinh:1 Zyyy:6",
  "Zinh:1 Zyyy:3 Zinh:2 Zyyy:1 Zzzz:5 Latn:26 Grek:5 Cyrl:1 Latn:31 Grek:5 Latn:4 Grek:5 Latn:D",
  "Cyrl:1 Latn:46 Grek:1 Zinh:40 Latn:100 Grek:16 Zzzz:2 Grek:6 Zzzz:2 Grek:26 Zzzz:2 Grek:6",
  "Zzzz:2 Grek:8 Zzzz:1 Grek:1 Zzzz:1 Grek:1 Zzzz:1 Grek:1 Zzzz:1 Grek:1F Zzzz:2 Grek:35 Zzzz:1",
  "Grek:F Zzzz:1 Grek:E Zzzz:2 Grek:6 Zzzz:1 Grek:13 Zzzz:2 Grek:3 Zzzz:1 Grek:9 Zzzz:1 Zyyy:C",
  "Zinh:2 Zyyy:57 Zzzz:1 Zyyy:B Latn:1 Zzzz:2 Zyyy:B Latn:1 Zyyy:F Zzzz:1 Latn:D Zzzz:3 Zyyy:21",
  "Zzzz:F Zinh:21 Zzzz:F Zyyy:26 Grek:1 Zyyy:3 Latn:2 Zyyy:6 Latn:1 Zyyy:1B Latn:1 Zyyy:11",
  "Latn:29 Zyyy:3 Zzzz:4 Zyyy:29A Zzzz:16 Zyyy:B Zzzz:15 Zyyy:3A0 Brai:100 Zyyy:274 Zzzz:2",
  "Zyyy:20 Zzzz:1 Zyyy:69 Glag:60 Latn:20 Copt:74 Zzzz:5 Copt:7 Geor:26 Zzzz:1 Geor:1 Zzzz:5",
  "Geor:1 Zzzz:2 Tfng:38 Zzzz:7 Tfng:2 Zzzz:E Tfng:1 Ethi:17 Zzzz:9 Ethi:7 Zzzz:1 Ethi:7 Zzzz:1",
  "Ethi:7 Zzzz:1 Ethi:7 Zzzz:1 Ethi:7 Zzzz:1 Ethi:7 Zzzz:1 Ethi:7 Zzzz:1 Ethi:7 Zzzz:1 Cyrl:20",
  "Zyyy:5E Zzzz:22 Hani:1A Zzzz:1 Hani:59 Zzzz:C Hani:D6 Zzzz:1A Zyyy:15 Hani:1 Zyyy:1 Hani:1",
  "Zyyy:19 Hani:9 Zinh:4 Hang:2 Zyyy:8 Hani:4 Zyyy:4 Zzzz:1 Hira:56 Zzzz:2 Zinh:2 Zyyy:2 Hira:3",
  "Zyyy:1 Kana:5A Zyyy:2 Kana:3 Zzzz:5 Bopo:2B Zzzz:1 Hang:5E Zzzz:1 Zyyy:10 Bopo:20 Zyyy:26",
  "Zzzz:9 Zyyy:1 Kana:10 Hang:1F Zzzz:1 Zyyy:40 Hang:1F Zyyy:51 Kana:2F Zyyy:1 Kana:58 Zyyy:A8",
  "Hani:19C0 Zyyy:40 Hani:5200 Yiii:48D Zzzz:3 Yiii:37 Zzzz:9 Lisu:30 Vaii:12C Zzzz:14 Cyrl:60",
  "Bamu:58 Zzzz:8 Zyyy:22 Latn:66 Zyyy:3 Latn:43 Zzzz:2 Latn:2 Zzzz:1 Latn:1 Zzzz:1 Latn:8",
  "Zzzz:15 Latn:E Sylo:2D Zzzz:3 Zyyy:A Zzzz:6 Phag:38 Zzzz:8 Saur:46 Zzzz:8 Saur:C Zzzz:6",
  "Deva:20 Kali:2E Zyyy:1 Kali:1 Rjng:24 Zzzz:B Rjng:1 Hang:1D Zzzz:3 Java:4E Zzzz:1 Zyyy:1",
  "Java:A Zzzz:4 Java:2 Mymr:1F Zzzz:1 Cham:37 Zzzz:9 Cham:E Zzzz:2 Cham:A Zzzz:2 Cham:4",
  "Mymr:20 Tavt:43 Zzzz:18 Tavt:5 Mtei:17 Zzzz:A Ethi:6 Zzzz:2 Ethi:6 Zzzz:2 Ethi:6 Zzzz:9",
  "Ethi:7 Zzzz:1 Ethi:7 Zzzz:1 Latn:2B Zyyy:1 Latn:9 Grek:1 Latn:4 Zyyy:2 Zzzz:4 Cher:50",
  "Mtei:2E Zzzz:2 Mtei:A Zzzz:6 Hang:2BA4 Zzzz:C Hang:17 Zzzz:4 Hang:31 Zzzz:2104 Hani:16E",
  "Zzzz:2 Hani:6A Zzzz:26 Latn:7 Zzzz:C Armn:5 Zzzz:5 Hebr:1A Zzzz:1 Hebr:5 Zzzz:1 Hebr:1",
  "Zzzz:1 Hebr:2 Zzzz:1 Hebr:2 Zzzz:1 Hebr:A Arab:73 Zzzz:10 Arab:16B Zyyy:2 Arab:50 Zzzz:2",
  "Arab:36 Zzzz:7 Arab:1 Zzzz:20 Arab:10 Zinh:10 Zyyy:A Zzzz:6 Zinh:E Cyrl:2 Zyyy:23 Zzzz:1",
  "Zyyy:13 Zzzz:1 Zyyy:4 Zzzz:4 Arab:5 Zzzz:1 Arab:87 Zzzz:2 Zyyy:1 Zzzz:1 Zyyy:20 Latn:1A",
  "Zyyy:6 Latn:1A Zyyy:B Kana:A Zyyy:1 Kana:2D Zyyy:2 Hang:1F Zzzz:3 Hang:6 Zzzz:2 Hang:6",
  "Zzzz:2 Hang:6 Zzzz:2 Hang:3 Zzzz:3 Zyyy:7 Zzzz:1 Zyyy:7 Zzzz:A Zyyy:5 Zzzz:2 Linb:C Zzzz:1",
  "Linb:1A Zzzz:1 Linb:13 Zzzz:1 Linb:2 Zzzz:1 Linb:F Zzzz:2 Linb:E Zzzz:22 Linb:7B Zzzz:5",
  "Zyyy:3 Zzzz:4 Zyyy:2D Zzzz:3 Zyyy:9 Grek:4F Zzzz:1 Zyyy:D Zzzz:3 Grek:1 Zzzz:2F Zyyy:2D",
  "Zinh:1 Zzzz:82 Lyci:1D Zzzz:3 Cari:31 Zzzz:F Zinh:1 Zyyy:1B Zzzz:4 Ital:24 Zzzz:9 Ital:3",
  "Goth:1B Zzzz:5 Perm:2B Zzzz:5 Ugar:1E Zzzz:1 Ugar:1 Xpeo:24 Zzzz:4 Xpeo:E Zzzz:2A Dsrt:50",
  "Shaw:30 Osma:1E Zzzz:2 Osma:A Zzzz:6 Osge:24 Zzzz:4 Osge:24 Zzzz:4 Elba:28 Zzzz:8 Aghb:34",
  "Zzzz:B Aghb:1 Vith:B Zzzz:1 Vith:F Zzzz:1 Vith:7 Zzzz:1 Vith:2 Zzzz:1 Vith:B Zzzz:1 Vith:F",
  "Zzzz:1 Vith:7 Zzzz:1 Vith:2 Zzzz:3 Todr:34 Zzzz:C Lina:137 Zzzz:9 Lina:16 Zzzz:A Lina:8",
  "Zzzz:18 Latn:6 Zzzz:1 Latn:2A Zzzz:1 Latn:9 Zzzz:45 Cprt:6 Zzzz:2 Cprt:1 Zzzz:1 Cprt:2C",
  "Zzzz:1 Cprt:2 Zzzz:3 Cprt:1 Zzzz:2 Cprt:1 Armi:16 Zzzz:1 Armi:9 Palm:20 Nbat:1F Zzzz:8",
  "Nbat:9 Zzzz:30 Hatr:13 Zzzz:1 Hatr:2 Zzzz:5 Hatr:5 Phnx:1C Zzzz:3 Phnx:1 Lydi:1A Zzzz:5",
  "Lydi:1 Zzzz:40 Mero:20 Merc:18 Zzzz:4 Merc:14 Zzzz:2 Merc:2E Khar:4 Zzzz:1 Khar:2 Zzzz:5",
  "Khar:8 Zzzz:1 Khar:3 Zzzz:1 Khar:1D Zzzz:2 Khar:3 Zzzz:4 Khar:A Zzzz:7 Khar:9 Zzzz:7 Sarb:20",
  "Narb:20 Zzzz:20 Mani:27 Zzzz:4 Mani:C Zzzz:9 Avst:36 Zzzz:3 Avst:7 Prti:16 Zzzz:2 Prti:8",
  "Phli:13 Zzzz:5 Phli:8 Phlp:12 Zzzz:7 Phlp:4 Zzzz:C Phlp:7 Zzzz:50 Orkh:49 Zzzz:37 Hung:33",
  "Zzzz:D Hung:33 Zzzz:7 Hung:6 Rohg:28 Zzzz:8 Rohg:A Zzzz:6 Gara:26 Zzzz:3 Gara:1D Zzzz:8",
  "Gara:2 Zzzz:D0 Arab:1F Zzzz:1 Yezi:2A Zzzz:1 Yezi:3 Zzzz:2 Yezi:2 Zzzz:10 Arab:3 Zzzz:37",
  "Arab:4 Sogo:28 Zzzz:8 Sogd:2A Zzzz:16 Ougr:1A Zzzz:26 Chrs:1C Zzzz:14 Elym:17 Zzzz:9 Brah:4E",
  "Zzzz:4 Brah:24 Zzzz:9 Brah:1 Kthi:43 Zzzz:A Kthi:1 Zzzz:2 Sora:19 Zzzz:7 Sora:A Zzzz:6",
  "Cakm:35 Zzzz:1 Cakm:12 Zzzz:8 Mahj:27 Zzzz:9 Shrd:60 Zzzz:1 Sinh:14 Zzzz:B Khoj:12 Zzzz:1",
  "Khoj:2F Zzzz:3E Mult:7 Zzzz:1 Mult:1 Zzzz:1 Mult:4 Zzzz:1 Mult:F Zzzz:1 Mult:B Zzzz:6",
  "Sind:3B Zzzz:5 Sind:A Zzzz:6 Gran:4 Zzzz:1 Gran:8 Zzzz:2 Gran:2 Zzzz:2 Gran:16 Zzzz:1 Gran:7",
  "Zzzz:1 Gran:2 Zzzz:1 Gran:5 Zzzz:1 Zinh:1 Gran:9 Zzzz:2 Gran:2 Zzzz:2 Gran:3 Zzzz:2 Gran:1",
  "Zzzz:6 Gran:1 Zzzz:5 Gran:7 Zzzz:2 Gran:7 Zzzz:3 Gran:5 Zzzz:B Tutg:A Zzzz:1 Tutg:1 Zzzz:2",
  "Tutg:1 Zzzz:1 Tutg:26 Zzzz:1 Tutg:A Zzzz:1 Tutg:1 Zzzz:2 Tutg:1 Zzzz:1 Tutg:4 Zzzz:1 Tutg:A",
  "Zzzz:1 Tutg:2 Zzzz:8 Tutg:2 Zzzz:1D Newa:5C Zzzz:1 Newa:5 Zzzz:1E Tirh:48 Zzzz:8 Tirh:A",
  "Zzzz:A6 Sidd:36 Zzzz:2 Sidd:26 Zzzz:22 Modi:45 Zzzz:B Modi:A Zzzz:6 Mong:D Zzzz:13 Takr:3A",
  "Zzzz:6 Takr:A Zzzz:6 Mymr:14 Zzzz:1C Ahom:1B Zzzz:2 Ahom:F Zzzz:4 Ahom:17 Zzzz:B9 Dogr:3C",
  "Zzzz:64 Wara:53 Zzzz:C Wara:1 Diak:7 Zzzz:2 Diak:1 Zzzz:2 Diak:8 Zzzz:1 Diak:2 Zzzz:1",
  "Diak:1E Zzzz:1 Diak:2 Zzzz:2 Diak:C Zzzz:9 Diak:A Zzzz:46 Nand:8 Zzzz:2 Nand:2E Zzzz:2",
  "Nand:B Zzzz:1B Zanb:48 Zzzz:8 Soyo:53 Zzzz:D Cans:10 Pauc:39 Zzzz:7 Deva:A Zzzz:B6 Sunu:22",
  "Zzzz:E Sunu:A Zzzz:6 Bhks:9 Zzzz:1 Bhks:2D Zzzz:1 Bhks:E Zzzz:A Bhks:1D Zzzz:3 Marc:20",
  "Zzzz:2 Marc:16 Zzzz:1 Marc:E Zzzz:49 Gonm:7 Zzzz:1 Gonm:2 Zzzz:1 Gonm:2C Zzzz:3 Gonm:1",
  "Zzzz:1 Gonm:2 Zzzz:1 Gonm:9 Zzzz:8 Gonm:A Zzzz:6 Gong:6 Zzzz:1 Gong:2 Zzzz:1 Gong:25 Zzzz:1",
  "Gong:2 Zzzz:1 Gong:6 Zzzz:7 Gong:A Zzzz:136 Maka:19 Zzzz:7 Kawi:11 Zzzz:1 Kawi:29 Zzzz:3",
  "Kawi:1D Zzzz:55 Lisu:1 Zzzz:F Taml:32 Zzzz:D Taml:1 Xsux:39A Zzzz:66 Xsux:6F Zzzz:1 Xsux:5",
  "Zzzz:B Xsux:C4 Zzzz:A4C Cpmn:63 Zzzz:D Egyp:456 Zzzz:A Egyp:F9B Zzzz:5 Hluw:247 Zzzz:1AB9",
  "Gukh:3A Zzzz:6C6 Bamu:239 Zzzz:7 Mroo:1F Zzzz:1 Mroo:A Zzzz:4 Mroo:2 Tnsa:4F Zzzz:1 Tnsa:A",
  "Zzzz:6 Bass:1E Zzzz:2 Bass:6 Zzzz:A Hmng:46 Zzzz:A Hmng:A Zzzz:1 Hmng:7 Zzzz:1 Hmng:15",
  "Zzzz:5 Hmng:13 Zzzz:1B0 Krai:3A Zzzz:C6 Medf:5B Zzzz:65 Plrd:4B Zzzz:4 Plrd:39 Zzzz:7",
  "Plrd:11 Zzzz:40 Tang:1 Nshu:1 Hani:2 Kits:1 Zzzz:B Hani:2 Zzzz:E Tang:17F8 Zzzz:8 Tang:300",
  "Kits:1D6 Zzzz:29 Kits:1 Tang:9 Zzzz:22E7 Kana:4 Zzzz:1 Kana:7 Zzzz:1 Kana:2 Zzzz:1 Kana:1",
  "Hira:11F Kana:3 Zzzz:F Hira:1 Zzzz:1D Hira:3 Zzzz:2 Kana:1 Zzzz:E Kana:4 Zzzz:8 Nshu:18C",
  "Zzzz:904 Dupl:6B Zzzz:5 Dupl:D Zzzz:3 Dupl:9 Zzzz:7 Dupl:A Zzzz:2 Dupl:4 Zyyy:4 Zzzz:F5C",
  "Zyyy:FA Zzzz:6 Zyyy:1B4 Zzzz:4C Zinh:2E Zzzz:2 Zinh:17 Zzzz:9 Zyyy:74 Zzzz:3C Zyyy:F6 Zzzz:A",
  "Zyyy:27 Zzzz:2 Zyyy:3E Zinh:3 Zyyy:11 Zinh:8 Zyyy:2 Zinh:7 Zyyy:1E Zinh:4 Zyyy:3D Zzzz:15",
  "Grek:46 Zzzz:7A Zyyy:14 Zzzz:C Zyyy:14 Zzzz:C Zyyy:57 Zzzz:9 Zyyy:19 Zzzz:87 Zyyy:55 Zzzz:1",
  "Zyyy:47 Zzzz:1 Zyyy:2 Zzzz:2 Zyyy:1 Zzzz:2 Zyyy:2 Zzzz:2 Zyyy:4 Zzzz:1 Zyyy:C Zzzz:1 Zyyy:1",
  "Zzzz:1 Zyyy:7 Zzzz:1 Zyyy:41 Zzzz:1 Zyyy:4 Zzzz:2 Zyyy:8 Zzzz:1 Zyyy:7 Zzzz:1 Zyyy:1C Zzzz:1",
  "Zyyy:4 Zzzz:1 Zyyy:5 Zzzz:1 Zyyy:1 Zzzz:3 Zyyy:7 Zzzz:1 Zyyy:154 Zzzz:2 Zyyy:124 Zzzz:2",
  "Zyyy:32 Sgnw:28C Zzzz:F Sgnw:5 Zzzz:1 Sgnw:F Zzzz:450 Latn:1F Zzzz:6 Latn:6 Zzzz:D5 Glag:7",
  "Zzzz:1 Glag:11 Zzzz:2 Glag:7 Zzzz:1 Glag:2 Zzzz:1 Glag:5 Zzzz:5 Cyrl:3E Zzzz:21 Cyrl:1",
  "Zzzz:70 Hmnp:2D Zzzz:3 Hmnp:E Zzzz:2 Hmnp:A Zzzz:4 Hmnp:2 Zzzz:140 Toto:1F Zzzz:11 Wcho:3A",
  "Zzzz:5 Wcho:1 Zzzz:1D0 Nagm:2A Zzzz:D6 Onao:2B Zzzz:4 Onao:1 Zzzz:1E0 Ethi:7 Zzzz:1 Ethi:4",
  "Zzzz:1 Ethi:2 Zzzz:1 Ethi:F Zzzz:1 Mend:C5 Zzzz:2 Mend:10 Zzzz:29 Adlm:4C Zzzz:4 Adlm:A",
  "Zzzz:4 Adlm:2 Zzzz:311 Zyyy:44 Zzzz:4C Zyyy:3D Zzzz:C2 Arab:4 Zzzz:1 Arab:1B Zzzz:1 Arab:2",
  "Zzzz:1 Arab:1 Zzzz:2 Arab:1 Zzzz:1 Arab:A Zzzz:1 Arab:4 Zzzz:1 Arab:1 Zzzz:1 Arab:1 Zzzz:6",
  "Arab:1 Zzzz:4 Arab:1 Zzzz:1 Arab:1 Zzzz:1 Arab:1 Zzzz:1 Arab:3 Zzzz:1 Arab:2 Zzzz:1 Arab:1",
  "Zzzz:2 Arab:1 Zzzz:1 Arab:1 Zzzz:1 Arab:1 Zzzz:1 Arab:1 Zzzz:1 Arab:1 Zzzz:1 Arab:2 Zzzz:1",
  "Arab:1 Zzzz:2 Arab:4 Zzzz:1 Arab:7 Zzzz:1 Arab:4 Zzzz:1 Arab:4 Zzzz:1 Arab:1 Zzzz:1 Arab:A",
  "Zzzz:1 Arab:11 Zzzz:5 Arab:3 Zzzz:1 Arab:5 Zzzz:1 Arab:11 Zzzz:34 Arab:2 Zzzz:10E Zyyy:2C",
  "Zzzz:4 Zyyy:64 Zzzz:C Zyyy:F Zzzz:2 Zyyy:F Zzzz:1 Zyyy:F Zzzz:1 Zyyy:25 Zzzz:A Zyyy:AE",
  "Zzzz:38 Zyyy:1A Hira:1 Zyyy:2 Zzzz:D Zyyy:2C Zzzz:4 Zyyy:9 Zzzz:7 Zyyy:2 Zzzz:E Zyyy:6",
  "Zzzz:9A Zyyy:3D8 Zzzz:4 Zyyy:11 Zzzz:3 Zyyy:D Zzzz:3 Zyyy:77 Zzzz:4 Zyyy:5F Zzzz:6 Zyyy:C",
  "Zzzz:4 Zyyy:1 Zzzz:F Zyyy:C Zzzz:4 Zyyy:38 Zzzz:8 Zyyy:A Zzzz:6 Zyyy:28 Zzzz:8 Zyyy:1E",
  "Zzzz:2 Zyyy:C Zzzz:4 Zyyy:2 Zzzz:3E Zyyy:154 Zzzz:C Zyyy:E Zzzz:2 Zyyy:D Zzzz:3 Zyyy:A",
  "Zzzz:5 Zyyy:38 Zzzz:7 Zyyy:F Zzzz:2 Zyyy:B Zzzz:6 Zyyy:9 Zzzz:7 Zyyy:93 Zzzz:1 Zyyy:66",
  "Zzzz:406 Hani:A6E0 Zzzz:20 Hani:103A Zzzz:6 Hani:DE Zzzz:2 Hani:1682 Zzzz:E Hani:1D31 Zzzz:F",
  "Hani:26E Zzzz:9A2 Hani:21E Zzzz:5E2 Hani:134B Zzzz:5 Hani:1060 Zzzz:ADC51 Zyyy:1 Zzzz:1E",
  "Zyyy:60 Zzzz:80 Zinh:F0 Zzzz:2FE10"]

/-- Each script with the alternating runs outside and inside its extensions. -/
def scriptExtensionRuns : List (String × List String) := [
  ("Adlm", [
    "61F 1 20 1 1A0E 1 DF1 1 1BABE 4C 4 A 4 2"]),
  ("Aghb", [
    "304 1 2C 1 2C 1 101D1 34 B 1"]),
  ("Ahom", [
    "11700 1B 2 F 4 17"]),
  ("Arab", [
    "600 5 1 D7 1 22 50 30 F0 1F 1 2 5 4B 1 1D 174F 1 DF1 1 CD0E 73 10 1BD 2 36 7 1 20 10 70",
    "5 1 87 3E3 1C B64 1F 43 3 37 4 DF00 4 1 1B 1 2 1 1 2 1 1 A 1 4 1 1 1 1 6 1 4 1 1 1 1 1 1",
    "3 1 2 1 1 2 1 1 1 1 1 1 1 1 1 1 2 1 1 2 4 1 7 1 4 1 4 1 1 1 A 1 11 5 3 1 5 1 11 34 2"]),
  ("Armi", [
    "10840 16 1 9"]),
  ("Armn", [
    "308 1 228 26 2 32 2 3 F583 5"]),
  ("Avst", [
    "B7 1 2D78 2 DCCE 36 3 7"]),
  ("Bali", [
    "1B00 4D 1 32"]),
  ("Bamu", [
    "A6A0 58 C108 239"]),
  ("Bass", [
    "16AD0 1E 2 6"]),
  ("Batk", [
    "1BC0 34 8 4"]),
  ("Beng", [
    "2BC 1 694 2 11 2 1A 4 1 8 2 2 2 16 1 7 1 1 3 4 2 9 2 2 2 4 8 1 4 2 1 5 2 19 12D1 1 1 1 2",
    "2 1 1 8 1 8 1 2 1 4 1 2 3 8BF9 1"]),
  ("Bhks", [
    "11C00 9 1 2D 1 E A 1D"]),
  ("Bopo", [
    "2C7 1 1 3 D 1 10 2 2D15 3 4 A 1 D A 4 2 1 6 1 C3 1 9 2B 70 20 CC85 2 11A 5"]),
  ("Brah", [
    "11000 4E 4 24 9 1"]),
  ("Brai", [
    "2800 100"]),
  ("Bugi", [
    "1A00 1C 2 2 8FAF 1"]),
  ("Buhd", [
    "1735 2 9 14"]),
  ("Cakm", [
    "9E6 A 650 A 100B6 35 1 12"]),
  ("Cans", [
    "1400 280 230 46 101BA 10"]),
  ("Cari", [
    "B7 1 1FA2 1 2 1 DD3 1 D46E 31"]),
  ("Cham", [
    "AA00 37 9 E 2 A 2 4"]),
  ("Cher", [
    "300 3 1 1 6 2 16 2 B 2 106E 56 2 6 9772 50"]),
  ("Chrs", [
    "10FB0 1C"]),
  ("Copt", [
    "B7 1 248 1 3 2 1 1 6C 2 6C E 2890 74 5 7 117 1 D4C8 1C"]),
  ("Cpmn", [
    "10100 2 2E8E 63"]),
  ("Cprt", [
    "10100 3 4 2D 3 9 6C0 6 2 1 1 2C 1 2 3 1 2 1"]),
  ("Cyrl", [
    "2BC 1 43 3 1 1 1 1 1 1 2 1 5 1 EE 130 1750 B A0 1 4C 1 7F 1 FE7 20 43 1 77FC 60 578E 2",
    "E200 3E 21 1"]),
  ("Deva", [
    "2BC 1 643 53 2 2B 1350 27 1 2 3F6 1 873F A A6 20 7200 A"]),
  ("Diak", [
    "11900 7 2 1 2 8 1 2 1 1E 1 2 2 C 9 A"]),
  ("Dogr", [
    "964 C 9EC0 A 6FC6 3C"]),
  ("Dsrt", [
    "10400 50"]),
  ("Dupl", [
    "B7 1 24F 2 1 1 18 2 2B17 1 18DC3 6B 5 D 3 9 7 A 2 8"]),
  ("Egyp", [
    "13000 456 A F9B"]),
  ("Elba", [
    "B7 1 24D 1 101FA 28"]),
  ("Elym", [
    "10FE0 17"]),
  ("Ethi", [
    "30E 1 EF1 49 1 4 2 7 1 1 1 4 2 29 1 4 2 21 1 4 2 7 1 1 1 4 2 F 1 39 1 4 2 43 2 20 3 1A",
    "19E6 17 9 7 1 7 1 7 1 7 1 7 1 7 1 7 1 7 7D22 6 2 6 2 6 9 7 1 7 13CB1 7 1 4 1 2 1 F"]),
  ("Gara", [
    "60C 1 E 1 3 1 10720 26 3 1D 8 2"]),
  ("Geor", [
    "B7 1 4D1 1 B16 26 1 1 5 1 2 30 B90 2B 2 3 39A 1 CA5 26 1 1 5 1 103 1"]),
  ("Glag", [
    "B7 1 24B 1 1 1 17E 1 2 1 101 1 B71 1 F5E 1 BA5 60 1E3 1 782B 1 13990 7 1 11 2 7 1 2 1 5"]),
  ("Gong", [
    "B7 1 8AC 2 113FA 6 1 2 1 25 1 2 1 6 7 A"]),
  ("Gonm", [
    "964 2 1139A 7 1 2 1 2C 3 1 1 2 1 9 8 A"]),
  ("Goth", [
    "B7 1 24C 2 2 1 28 1 FFFE 1B"]),
  ("Gran", [
    "951 2 11 2 280 E 10DC 1 1 2 1E 3 3 2 3F6 1 F20F 4 1 8 2 2 2 16 1 7 1 2 1 5 1 A 2 2 2 3 2",
    "1 6 1 5 7 2 7 3 5 C5B 2 1 1"]),
  ("Grek", [
    "B7 1 248 2 2 1 1 1 1 1 A 1 2E 1 2 1 2A 8 2 4 1 1 4 1 1 1 1 3 1 1 1 14 1 3F E 10 1926 5",
    "32 5 4 5 54 3 13E 16 2 6 2 26 2 6 2 8 1 1 1 1 1 1 1 1F 2 35 1 F 1 E 2 6 1 13 2 3 1 9 5E",
    "1 C8 1 8A3E 1 55DA 4F 11 1 D05F 46"]),
  ("Gujr", [
    "951 2 11 2 11B 3 1 9 1 3 1 16 1 7 1 2 1 5 2 A 1 3 1 3 2 1 F 4 2 C 7 7 9D30 A"]),
  ("Gukh", [
    "965 1 1579A 3A"]),
  ("Guru", [
    "951 2 11 2 9B 3 1 6 4 2 2 16 1 7 1 2 1 2 1 2 2 1 1 5 4 2 2 3 3 1 7 4 1 1 7 11 9DB9 A"]),
  ("Hang", [
    "1100 100 1E01 3 4 A 1 D E 3 6 1 C3 1 35 5E 71 1F 41 1F 76E1 1D 283 2BA4 C 17 4 31 2649 2",
    "11A 5 3A 1F 3 6 2 6 2 6 2 3"]),
  ("Hani", [
    "B7 1 2DC8 1A 1 59 C D6 1A 10 1 3 1 D 1 D 1 D 2 1 6 9 BB 1 94 10 20 26 9 1 30 28 38 31 F",
    "C 33 1 58 19 A 5 60 1F 1 19C0 40 5200 700 8 51F8 16E 2 6A 36B 2 11A 5 707C 2 C 2 636E 12",
    "1EDE 2 DAE A6E0 20 103A 6 DE 2 1682 E 1D31 F 26E 9A2 21E 5E2 134B 5 1060"]),
  ("Hano", [
    "1720 17"]),
  ("Hatr", [
    "108E0 13 1 2 5 5"]),
  ("Hebr", [
    "307 2 288 37 8 1B 4 6 F528 1A 1 5 1 1 1 2 1 2 1 A"]),
  ("Hira", [
    "3001 3 4 A 1 D 10 6 1 1 4 2 3 56 2 8 5A 2 CD48 2 11A 5 A 1 2D 2 B061 11F 12 1 1D 3 40AD",
    "1"]),
  ("Hluw", [
    "14400 247"]),
  ("Hmng", [
    "16B00 46 A A 1 7 1 15 5 13"]),
  ("Hmnp", [
    "1E100 2D 3 E 2 A 4 2"]),
  ("Hung", [
    "205A 1 2 1 DD3 1 F 1 DE3E 33 D 33 7 6"]),
  ("Ital", [
    "10300 24 9 3"]),
  ("Java", [
    "A980 4E 1 B 4 2"]),
  ("Kali", [
    "A900 30"]),
  ("Kana", [
    "305 1 1D 1 2CDD 3 4 A 1 D 10 6 1 1 4 2 5B 4 3 60 F0 10 D0 2F 1 58 CAED 2 11A 3F B050 4 1",
    "7 1 2 1 1 11F 3 32 1 E 4"]),
  ("Kawi", [
    "11F00 11 1 29 3 1D"]),
  ("Khar", [
    "10A00 4 1 2 5 8 1 3 1 1D 2 3 4 A 7 9"]),
  ("Khmr", [
    "1780 5E 2 A 6 A 1E6 20"]),
  ("Khoj", [
    "AE6 A 9D40 A 69C6 12 1 2F"]),
  ("Kits", [
    "16FE4 1 1B1B 1D6 29 1"]),
  ("Knda", [
    "951 2 11 2 31A D 1 3 1 17 1 A 1 5 2 9 1 3 1 4 7 2 6 2 1 4 2 A 1 3 FDC 1 1 2 6 1 17 1 1 1",
    "8B3B 6"]),
  ("Krai", [
    "16D40 3A"]),
  ("Kthi", [
    "966 A 24C1 1 79FE A 6846 43 A 1"]),
  ("Lana", [
    "1A20 3F 1 1D 2 B 6 A 6 E"]),
  ("Laoo", [
    "E81 2 1 1 1 5 1 18 1 1 1 17 2 5 1 1 1 7 1 A 2 4"]),
  ("Latn", [
    "41 1A 6 1A 2F 1 C 1 2 1 5 17 1 1F 1 1C1 3 1 A 1 1 3 1 1 9 1 1 1 6 5 1B F 1 2 1 1 C 1 2 3",
    "7 2 1 2 26 1 5 1 4 D 115 2 4CA 2 7A8 1 C04 26 6 31 5 4 5 D 1 46 39 1 7 100 12F 1 41 1 D",
    "1 10 D 53 1 39 2 6 1 1B 1 11 29 AD7 20 197 1 78E8 8 1A 66 3 43 2 2 1 1 1 8 15 E 12E 1",
    "201 2B 1 9 1 4 4F96 7 41A 1A 6 1A 825 6 1 2A 1 9 D745 1F 6 6"]),
  ("Lepc", [
    "1C00 38 3 F 3 3"]),
  ("Limb", [
    "965 1 F9A 1F 1 C 4 C 4 1 3 C"]),
  ("Lina", [
    "10107 2D 4CC 137 9 16 A 8"]),
  ("Linb", [
    "10000 C 1 1A 1 13 1 2 1 F 2 E 22 7B 5 3 4 2D 3 9"]),
  ("Lisu", [
    "2BC 1 10 1 2D3C 2 74C4 30 7AB0 1"]),
  ("Lyci", [
    "205A 1 E225 1D"]),
  ("Lydi", [
    "B7 1 2D79 1 DAEE 1A 5 1"]),
  ("Mahj", [
    "B7 1 8AC C 9EC0 A 6916 27"]),
  ("Maka", [
    "11EE0 19"]),
  ("Mand", [
    "640 1 1FF 1C 2 1"]),
  ("Mani", [
    "640 1 1047F 27 4 C"]),
  ("Marc", [
    "11C70 20 2 16 1 E"]),
  ("Medf", [
    "16E40 5B"]),
  ("Mend", [
    "1E800 C5 2 10"]),
  ("Merc", [
    "109A0 18 4 14 2 2E"]),
  ("Mero", [
    "205D 1 E922 20"]),
  ("Mlym", [
    "951 2 11 2 39A D 1 3 1 33 1 3 1 6 4 10 2 1A F5A 1 17 1 8B3D 3"]),
  ("Modi", [
    "A830 A 6DC6 45 B A"]),
  ("Mong", [
    "1800 1A 6 59 7 2B 784 1 FD1 2 5 4 E654 D"]),
  ("Mroo", [
    "16A40 1F 1 A 4 2"]),
  ("Mtei", [
    "AAE0 17 C9 2E 2 A"]),
  ("Mult", [
    "A66 A 10810 7 1 1 1 4 1 F 1 B"]),
  ("Mymr", [
    "1000 A0 988E 1 B1 1F 61 20 6C50 14"]),
  ("Nagm", [
    "1E4D0 2A"]),
  ("Nand", [
    "964 2 380 A FF9 1 8 1 7 1 8B35 6 716A 8 2 2E 2 B"]),
  ("Narb", [
    "10A80 20"]),
  ("Nbat", [
    "10880 1F 8 9"]),
  ("Newa", [
    "11400 5C 1 5"]),
  ("Nkoo", [
    "60C 1 E 1 3 1 1A0 3B 2 3 F53E 2"]),
  ("Nshu", [
    "16FE1 1 418E 18C"]),
  ("Ogam", [
    "1680 1D"]),
  ("Olck", [
    "1C50 30"]),
  ("Onao", [
    "964 2 1DC6A 2B 4 1"]),
  ("Orkh", [
    "205A 1 DD5 1 DDCF 49"]),
  ("Orya", [
    "951 2 11 2 19B 3 1 8 2 2 2 16 1 7 1 2 1 5 2 9 2 2 2 3 7 3 4 2 1 5 2 12 1162 1 17 1"]),
  ("Osge", [
    "301 1 2 1 6 1 4C 1 10157 24 4 24"]),
  ("Osma", [
    "10480 1E 2 A"]),
  ("Ougr", [
    "640 1 104B1 1 47D 1A"]),
  ("Palm", [
    "10860 20"]),
  ("Pauc", [
    "11AC0 39"]),
  ("Perm", [
    "B7 1 248 1 5 3 A 1 16F 1 FECC 2B"]),
  ("Phag", [
    "1802 2 1 1 829 1 FD2 1 783D 38"]),
  ("Phli", [
    "10B60 13 5 8"]),
  ("Phlp", [
    "640 1 1053F 12 7 4 C 7"]),
  ("Phnx", [
    "10900 1C 3 1"]),
  ("Plrd", [
    "16F00 4B 4 39 7 11"]),
  ("Prti", [
    "10B40 16 2 8"]),
  ("Rjng", [
    "A930 24 B 1"]),
  ("Rohg", [
    "60C 1 E 1 3 1 20 1 93 1 1062B 28 8 A"]),
  ("Runr", [
    "16A0 59"]),
  ("Samr", [
    "800 2E 2 F 25F2 1"]),
  ("Sarb", [
    "10A60 20"]),
  ("Saur", [
    "A880 46 8 C"]),
  ("Sgnw", [
    "1D800 28C F 5 1 F"]),
  ("Shaw", [
    "B7 1 10398 30"]),
  ("Shrd", [
    "951 1 1385 1 1 1 2 2 2 1 8B4F 6 2 1 6947 60"]),
  ("Sidd", [
    "11580 36 2 26"]),
  ("Sind", [
    "964 2 9ECA A 6A76 3B 5 A"]),
  ("Sinh", [
    "964 2 41B 3 1 12 3 18 1 9 1 1 2 7 3 1 4 6 1 1 1 8 6 A 2 3 EFD 1 F4EE 14"]),
  ("Sogd", [
    "640 1 108EF 2A"]),
  ("Sogo", [
    "10F00 28"]),
  ("Sora", [
    "110D0 19 7 A"]),
  ("Soyo", [
    "11A50 53"]),
  ("Sund", [
    "1B80 40 100 8"]),
  ("Sunu", [
    "300 2 1 1 9 1 2 1 1C 1 3 1 1188E 22 E A"]),
  ("Sylo", [
    "964 2 80 A 9E10 2D"]),
  ("Syrc", [
    "303 2 2 2 1 1 15 1 2 3 7 2 1 1 2DB 1 E 2 2 1 20 1 A B 1A 1 8F E 1 3C 2 3 110 B 158D 1 1",
    "1"]),
  ("Tagb", [
    "1735 2 29 D 1 3 1 2"]),
  ("Takr", [
    "964 2 9ECA A 6E46 3A 6 A"]),
  ("Tale", [
    "300 2 5 2 3 1 D33 A 906 1E 2 5"]),
  ("Talu", [
    "1980 2C 4 1A 6 B 3 2"]),
  ("Taml", [
    "951 2 11 2 21C 2 1 6 3 3 1 4 3 2 1 1 1 2 3 2 3 3 3 C 4 5 3 3 1 4 2 1 6 1 E 15 10DF 1",
    "8C18 1 6A0D 1 1 1 37 2 C83 32 D 1"]),
  ("Tang", [
    "2FF0 10 1EF 1 13DF0 1 1F 17F8 8 300 200 9"]),
  ("Tavt", [
    "AA80 43 18 5"]),
  ("Telu", [
    "951 2 11 2 29A D 1 3 1 17 1 10 2 9 1 3 1 4 7 2 1 3 2 1 2 4 2 A 7 9 105A 1 17 1"]),
  ("Tfng", [
    "302 1 1 1 2 1 1 1 2A26 38 7 2 E 1"]),
  ("Tglg", [
    "1700 16 9 1 15 2"]),
  ("Thaa", [
    "60C 1 E 2 2 1 40 A 116 32 F640 1 A 1"]),
  ("Thai", [
    "2BC 1 1A 1 2B 1 2D 1 ACF 3A 5 1C"]),
  ("Tibt", [
    "F00 48 1 24 4 27 1 24 1 F 1 7 4 2 202D 4"]),
  ("Tirh", [
    "951 2 11 2 138C 1 8B3D A 6C46 48 8 A"]),
  ("Tnsa", [
    "16A70 4F 1 A"]),
  ("Todr", [
    "301 1 2 1 2 1 9 1 1 1 4A 1 10261 34"]),
  ("Toto", [
    "2BC 1 1DFD3 1F"]),
  ("Tutg", [
    "CE6 A 1002 1 1 1 8B3B 6 BB 1 6A8E A 1 1 2 1 1 26 1 A 1 1 2 1 1 4 1 A 1 2 8 2"]),
  ("Ugar", [
    "10380 1E 1 1"]),
  ("Vaii", [
    "A500 12C"]),
  ("Vith", [
    "10570 B 1 F 1 7 1 2 1 B 1 F 1 7 1 2"]),
  ("Wara", [
    "118A0 53 C 1"]),
  ("Wcho", [
    "1E2C0 3A 5 1"]),
  ("Xpeo", [
    "103A0 24 4 E"]),
  ("Xsux", [
    "12000 39A 66 6F 1 5 B C4"]),
  ("Yezi", [
    "60C 1 E 1 3 1 40 A 10816 2A 1 3 2 2"]),
  ("Yiii", [
    "3001 2 5 A 2 8 DF 1 6F04 48D 3 37 5A9A 5"]),
  ("Zanb", [
    "11A00 48"]),
  ("Zinh", [
    "30F 1 2 1 1 C 1 2 3 7 2 1 2 10 1 2 1 12 1 5 1 4 5F0 2 115B 1F 2F3 36 1 1 1 5 20C 2 C2 20",
    "DD10 10 10 E 3CF 1 CD02 2E 2 17 220 3 11 8 2 7 1E 4 C2F52 F0"]),
  ("Zyyy", [
    "0 41 1A 6 1A 2F 1 C 1 2 1 5 17 1 1F 1 1C1 3 1 A 1 1 3 1 1 9 1 1 1 6 5 5 2 14 7E 1 6 1 1",
    "1 27D 1 D7 1 204 1 55C 1 195 4 1027 C 2 21 1 1F 1 A 1 2 1 7 1 B 3 B 1 F 11 21 3F 26 1 3",
    "2 6 1 1B 1 11 29 3 4 29A 16 B 15 3A0 100 274 2 20 1 69 200 17 1 18 2 A 1 4 1 1 1 1A 1A2",
    "1 3 1 D 1 D 1 15 1 211 18 1F 1 31 F C 4 A1 A 5 60 1F 1 19C0 40 5908 1A 66 3 3D0 1 E 2",
    "52A4 A 16 15 2 C 1 13 1 4 93 1 1 20 1A 6 1A 6 7F 7 1 7 A 5 192 D 33 2D CA03 FA 6 1B4 9C",
    "74 3C F6 A 27 2 3E 3 11 8 2 7 1E 4 3D D5 14 C 14 C 57 1B 7 87 55 1 47 1 2 2 1 2 2 2 4 1",
    "C 1 1 1 7 1 41 1 4 2 8 1 7 1 1C 1 4 1 5 1 1 3 7 1 154 2 124 2 32 1471 44 4C 3D 2C2 2C 4",
    "64 C F 2 F 1 F 1 25 A AE 38 1A 1 2 D 2C 4 9 17 6 9A 3D8 4 11 3 D 3 77 4 5F 6 C 4 1 F C 4",
    "38 8 A 6 28 8 1E 2 C 4 2 3E 154 C E 2 D 3 A 5 38 7 F 2 B 6 9 7 93 1 66 C0407 1 1E 60"])]

end SelectorGuard.Unicode
