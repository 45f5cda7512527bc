/-!
# Names of the values of properties

Each entry lists the names of one value, in lower case and without spaces, hyphens and
underscores, together with the labels that the run tables use for it. A General_Category group
such as Letter has several labels. Surrogates are not characters, so their category has no name,
and neither has the absence of a script or of a segmentation value.
-/

namespace SelectorGuard.Unicode

/-- Names of the General_Category values and groups, each with the labels of its members. -/
def categoryNames : List (List String × List String) := [
  (["c", "other"], ["Cc", "Cf", "Cn", "Co"]),
  (["cc", "cntrl", "control"], ["Cc"]),
  (["cf", "format"], ["Cf"]),
  (["cn", "unassigned"], ["Cn"]),
  (["co", "privateuse"], ["Co"]),
  (["l", "letter"], ["Lu", "Ll", "Lt", "Lm", "Lo"]),
  (["lc", "casedletter"], ["Lu", "Ll", "Lt"]),
  (["ll", "lowercaseletter"], ["Ll"]),
  (["lm", "modifierletter"], ["Lm"]),
  (["lo", "otherletter"], ["Lo"]),
  (["lt", "titlecaseletter"], ["Lt"]),
  (["lu", "uppercaseletter"], ["Lu"]),
  (["m", "combiningmark", "mark"], ["Mn", "Mc", "Me"]),
  (["mc", "spacingmark"], ["Mc"]),
  (["me", "enclosingmark"], ["Me"]),
  (["mn", "nonspacingmark"], ["Mn"]),
  (["n", "number"], ["Nd", "Nl", "No"]),
  (["nd", "decimalnumber", "digit"], ["Nd"]),
  (["nl", "letternumber"], ["Nl"]),
  (["no", "othernumber"], ["No"]),
  (["p", "punct", "punctuation"], ["Pc", "Pd", "Ps", "Pe", "Pi", "Pf", "Po"]),
  (["pc", "connectorpunctuation"], ["Pc"]),
  (["pd", "dashpunctuation"], ["Pd"]),
  (["pe", "closepunctuation"], ["Pe"]),
  (["pf", "finalpunctuation"], ["Pf"]),
  (["pi", "initialpunctuation"], ["Pi"]),
  (["po", "otherpunctuation"], ["Po"]),
  (["ps", "openpunctuation"], ["Ps"]),
  (["s", "symbol"], ["Sm", "Sc", "Sk", "So"]),
  (["sc", "currencysymbol"], ["Sc"]),
  (["sk", "modifiersymbol"], ["Sk"]),
  (["sm", "mathsymbol"], ["Sm"]),
  (["so", "othersymbol"], ["So"]),
  (["z", "separator"], ["Zs", "Zl", "Zp"]),
  (["zl", "lineseparator"], ["Zl"]),
  (["zp", "paragraphseparator"], ["Zp"]),
  (["zs", "spaceseparator"], ["Zs"])]

/-- Names of the Script values, each with its label. -/
def scriptNames : List (List String × String) := [
  (["adlm", "adlam"], "Adlm"),
  (["aghb", "caucasianalbanian"], "Aghb"),
  (["ahom"], "Ahom"),
  (["arab", "arabic"], "Arab"),
  (["armi", "imperialaramaic"], "Armi"),
  (["armn", "armenian"], "Armn"),
  (["avst", "avestan"], "Avst"),
  (["bali", "balinese"], "Bali"),
  (["bamu", "bamum"], "Bamu"),
  (["bass", "bassavah"], "Bass"),
  (["batk", "batak"], "Batk"),
  (["beng", "bengali"], "Beng"),
  (["bhks", "bhaiksuki"], "Bhks"),
  (["bopo", "bopomofo"], "Bopo"),
  (["brah", "brahmi"], "Brah"),
  (["brai", "braille"], "Brai"),
  (["bugi", "buginese"], "Bugi"),
  (["buhd", "buhid"], "Buhd"),
  (["cakm", "chakma"], "Cakm"),
  (["cans", "canadianaboriginal"], "Cans"),
  (["cari", "carian"], "Cari"),
  (["cham"], "Cham"),
  (["cher", "cherokee"], "Cher"),
  (["chrs", "chorasmian"], "Chrs"),
  (["copt", "coptic", "qaac"], "Copt"),
  (["cpmn", "cyprominoan"], "Cpmn"),
  (["cprt", "cypriot"], "Cprt"),
  (["cyrl", "cyrillic"], "Cyrl"),
  (["deva", "devanagari"], "Deva"),
  (["diak", "divesakuru"], "Diak"),
  (["dogr", "dogra"], "Dogr"),
  (["dsrt", "deseret"], "Dsrt"),
  (["dupl", "duployan"], "Dupl"),
  (["egyp", "egyptianhieroglyphs"], "Egyp"),
  (["elba", "elbasan"], "Elba"),
  (["elym", "elymaic"], "Elym"),
  (["ethi", "ethiopic"], "Ethi"),
  (["gara", "garay"], "Gara"),
  (["geor", "georgian"], "Geor"),
  (["glag", "glagolitic"], "Glag"),
  (["gong", "gunjalagondi"], "Gong"),
  (["gonm", "masaramgondi"], "Gonm"),
  (["goth", "gothic"], "Goth"),
  (["gran", "grantha"], "Gran"),
  (["grek", "greek"], "Grek"),
  (["gujr", "gujarati"], "Gujr"),
  (["gukh", "gurungkhema"], "Gukh"),
  (["guru", "gurmukhi"], "Guru"),
  (["hang", "hangul"], "Hang"),
  (["hani", "han"], "Hani"),
  (["hano", "hanunoo"], "Hano"),
  (["hatr", "hatran"], "Hatr"),
  (["hebr", "hebrew"], "Hebr"),
  (["hira", "hiragana"], "Hira"),
  (["hluw", "anatolianhieroglyphs"], "Hluw"),
  (["hmng", "pahawhhmong"], "Hmng"),
  (["hmnp", "nyiakengpuachuehmong"], "Hmnp"),
  (["hung", "oldhungarian"], "Hung"),
  (["ital", "olditalic"], "Ital"),
  (["java", "javanese"], "Java"),
  (["kali", "kayahli"], "Kali"),
  (["kana", "katakana"], "Kana"),
  (["kawi"], "Kawi"),
  (["khar", "kharoshthi"], "Khar"),
  (["khmr", "khmer"], "Khmr"),
  (["khoj", "khojki"], "Khoj"),
  (["kits", "khitansmallscript"], "Kits"),
  (["knda", "kannada"], "Knda"),
  (["krai", "kiratrai"], "Krai"),
  (["kthi", "kaithi"], "Kthi"),
  (["lana", "taitham"], "Lana"),
  (["laoo", "lao"], "Laoo"),
  (["latn", "latin"], "Latn"),
  (["lepc", "lepcha"], "Lepc"),
  (["limb", "limbu"], "Limb"),
  (["lina", "lineara"], "Lina"),
  (["linb", "linearb"], "Linb"),
  (["lisu"], "Lisu"),
  (["lyci", "lycian"], "Lyci"),
  (["lydi", "lydian"], "Lydi"),
  (["mahj", "mahajani"], "Mahj"),
  (["maka", "makasar"], "Maka"),
  (["mand", "mandaic"], "Mand"),
  (["mani", "manichaean"], "Mani"),
  (["marc", "marchen"], "Marc"),
  (["medf", "medefaidrin"], "Medf"),
  (["mend", "mendekikakui"], "Mend"),
  (["merc", "meroiticcursive"], "Merc"),
  (["mero", "meroitichieroglyphs"], "Mero"),
  (["mlym", "malayalam"], "Mlym"),
  (["modi"], "Modi"),
  (["mong", "mongolian"], "Mong"),
  (["mroo", "mro"], "Mroo"),
  (["mtei", "meeteimayek"], "Mtei"),
  (["mult", "multani"], "Mult"),
  (["mymr", "myanmar"], "Mymr"),
  (["nagm", "nagmundari"], "Nagm"),
  (["nand", "nandinagari"], "Nand"),
  (["narb", "oldnortharabian"], "Narb"),
  (["nbat", "nabataean"], "Nbat"),
  (["newa"], "Newa"),
  (["nkoo", "nko"], "Nkoo"),
  (["nshu", "nushu"], "Nshu"),
  (["ogam", "ogham"], "Ogam"),
  (["olck", "olchiki"], "Olck"),
  (["onao", "olonal"], "Onao"),
  (["orkh", "oldturkic"], "Orkh"),
  (["orya", "oriya"], "Orya"),
  (["osge", "osage"], "Osge"),
  (["osma", "osmanya"], "Osma"),
  (["ougr", "olduyghur"], "Ougr"),
  (["palm", "palmyrene"], "Palm"),
  (["pauc", "paucinhau"], "Pauc"),
  (["perm", "oldpermic"], "Perm"),
  (["phag", "phagspa"], "Phag"),
  (["phli", "inscriptionalpahlavi"], "Phli"),
  (["phlp", "psalterpahlavi"], "Phlp"),
  (["phnx", "phoenician"], "Phnx"),
  (["plrd", "miao"], "Plrd"),
  (["prti", "inscriptionalparthian"], "Prti"),
  (["rjng", "rejang"], "Rjng"),
  (["rohg", "hanifirohingya"], "Rohg"),
  (["runr", "runic"], "Runr"),
  (["samr", "samaritan"], "Samr"),
  (["sarb", "oldsoutharabian"], "Sarb"),
  (["saur", "saurashtra"], "Saur"),
  (["sgnw", "signwriting"], "Sgnw"),
  (["shaw", "shavian"], "Shaw"),
  (["shrd", "sharada"], "Shrd"),
  (["sidd", "siddham"], "Sidd"),
  (["sind", "khudawadi"], "Sind"),
  (["sinh", "sinhala"], "Sinh"),
  (["sogd", "sogdian"], "Sogd"),
  (["sogo", "oldsogdian"], "Sogo"),
  (["sora", "sorasompeng"], "Sora"),
  (["soyo", "soyombo"], "Soyo"),
  (["sund", "sundanese"], "Sund"),
  (["sunu", "sunuwar"], "Sunu"),
  (["sylo", "sylotinagri"], "Sylo"),
  (["syrc", "syriac"], "Syrc"),
  (["tagb", "tagbanwa"], "Tagb"),
  (["takr", "takri"], "Takr"),
  (["tale", "taile"], "Tale"),
  (["talu", "newtailue"], "Talu"),
  (["taml", "tamil"], "Taml"),
  (["tang", "tangut"], "Tang"),
  (["tavt", "taiviet"], "Tavt"),
  (["telu", "telugu"], "Telu"),
  (["tfng", "tifinagh"], "Tfng"),
  (["tglg", "tagalog"], "Tglg"),
  (["thaa", "thaana"], "Thaa"),
  (["thai"], "Thai"),
  (["tibt", "tibetan"], "Tibt"),
  (["tirh", "tirhuta"], "Tirh"),
  (["tnsa", "tangsa"], "Tnsa"),
  (["todr", "todhri"], "Todr"),
  (["toto"], "Toto"),
  (["tutg", "tulutigalari"], "Tutg"),
  (["ugar", "ugaritic"], "Ugar"),
  (["vaii", "vai"], "Vaii"),
  (["vith", "vithkuqi"], "Vith"),
  (["wara", "warangciti"], "Wara"),
  (["wcho", "wancho"], "Wcho"),
  (["xpeo", "oldpersian"], "Xpeo"),
  (["xsux", "cuneiform"], "Xsux"),
  (["yezi", "yezidi"], "Yezi"),
  (["yiii", "yi"], "Yiii"),
  (["zanb", "zanabazarsquare"], "Zanb"),
  (["zinh", "inherited", "qaai"], "Zinh"),
  (["zyyy", "common"], "Zyyy")]

/-- Names of the Grapheme_Cluster_Break values, each with its label. -/
def graphemeBreakNames : List (List String × String) := [
  (["cr"], "CR"),
  (["cn", "control"], "CN"),
  (["ex", "extend"], "EX"),
  (["l"], "L"),
  (["lf"], "LF"),
  (["lv"], "LV"),
  (["lvt"], "LVT"),
  (["pp", "prepend"], "PP"),
  (["ri", "regionalindicator"], "RI"),
  (["sm", "spacingmark"], "SM"),
  (["t"], "T"),
  (["v"], "V"),
  (["zwj"], "ZWJ")]

/-- Names of the Word_Break values, each with its label. -/
def wordBreakNames : List (List String × String) := [
  (["le", "aletter"], "LE"),
  (["cr"], "CR"),
  (["dq", "doublequote"], "DQ"),
  (["extend"], "Extend"),
  (["ex", "extendnumlet"], "EX"),
  (["fo", "format"], "FO"),
  (["hl", "hebrewletter"], "HL"),
  (["ka", "katakana"], "KA"),
  (["lf"], "LF"),
  (["ml", "midletter"], "ML"),
  (["mn", "midnum"], "MN"),
  (["mb", "midnumlet"], "MB"),
  (["nl", "newline"], "NL"),
  (["nu", "numeric"], "NU"),
  (["ri", "regionalindicator"], "RI"),
  (["sq", "singlequote"], "SQ"),
  (["wsegspace"], "WSeg"),
  (["zwj"], "ZWJ")]

/-- Names of the Sentence_Break values, each with its label. -/
def sentenceBreakNames : List (List String × String) := [
  (["at", "aterm"], "AT"),
  (["cr"], "CR"),
  (["cl", "close"], "CL"),
  (["ex", "extend"], "EX"),
  (["fo", "format"], "FO"),
  (["lf"], "LF"),
  (["lo", "lower"], "LO"),
  (["nu", "numeric"], "NU"),
  (["le", "oletter"], "LE"),
  (["sc", "scontinue"], "SC"),
  (["st", "sterm"], "ST"),
  (["se", "sep"], "SE"),
  (["sp"], "SP"),
  (["up", "upper"], "UP")]

end SelectorGuard.Unicode
