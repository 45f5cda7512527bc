import SelectorGuard.CharSet
import SelectorGuard.Text.Quoted
import SelectorGuard.Unicode.AgeData
import SelectorGuard.Unicode.BinaryData
import SelectorGuard.Unicode.BreakData
import SelectorGuard.Unicode.CategoryData
import SelectorGuard.Unicode.FoldData
import SelectorGuard.Unicode.Names
import SelectorGuard.Unicode.ScriptData

/-!
# Character properties by name

A property name selects a set of characters: a binary property, a General_Category value or group,
or a Script. A name with a value selects by General_Category, Script, Script_Extensions, Age or one
of the text segmentation properties. Names are compared without regard to case, spaces, hyphens,
underscores and a leading "is".

The module also closes a set under simple case folding, and gives the sets that stand behind the
classes of digits, blanks and word characters and behind the names of groups.
-/

namespace SelectorGuard.Unicode

/-- The number that a run of hexadecimal digits denotes, zero if it is none. -/
def hexOf (digits : String) : Nat :=
  (Text.hexNumber? digits.toList).getD 0

/-- The labelled run lengths of a table. -/
def labelledRuns (lines : List String) : List (String × Nat) :=
  lines.flatMap fun line => (line.splitOn " ").map fun entry =>
    match entry.splitOn ":" with
    | [label, size] => (label, hexOf size)
    | _ => ("", 0)

/-- The code point ranges of the runs whose label is wanted, the first run starting at a given
code point. -/
def rangesWhere (wanted : String → Bool) : Nat → List (String × Nat) → List (Nat × Nat)
  | _, [] => []
  | start, (label, size) :: rest =>
    if wanted label then (start, start + size - 1) :: rangesWhere wanted (start + size) rest
    else rangesWhere wanted (start + size) rest

/-- The ranges inside a property, given the alternating run lengths outside and inside it. -/
def rangesInside : Nat → List Nat → List (Nat × Nat)
  | start, outside :: inside :: rest =>
    (start + outside, start + outside + inside - 1) ::
      rangesInside (start + outside + inside) rest
  | _, _ => []

/-- The set whose alternating run lengths are written in lines. -/
def alternatingSet (lines : List String) : CharSet :=
  CharSet.ofRanges (rangesInside 0 (lines.flatMap fun line => (line.splitOn " ").map hexOf))

/-- The characters whose General_Category is one of the labels. -/
def categorySet (labels : List String) : CharSet :=
  CharSet.ofRanges (rangesWhere labels.contains 0 (labelledRuns categoryRuns))

/-- The characters whose script extensions include a script. -/
def scriptExtensionSet? (label : String) : Option CharSet :=
  (scriptExtensionRuns.find? fun entry => entry.1 == label).map fun entry =>
    alternatingSet entry.2

/-- The versions of the standard that assigned characters, in order. -/
def versions : List String :=
  ["1.1", "2.0", "2.1", "3.0", "3.1", "3.2", "4.0", "4.1", "5.0", "5.1", "5.2", "6.0", "6.1",
    "6.2", "6.3", "7.0", "8.0", "9.0", "10.0", "11.0", "12.0", "12.1", "13.0", "14.0", "15.0",
    "15.1", "16.0"]

/-- The characters assigned in one of several versions. -/
def ageSet (assigned : List String) : CharSet :=
  CharSet.ofRanges (rangesWhere assigned.contains 0 (labelledRuns ageRuns))

/-- The characters assigned in a version or an earlier one. A version is spelled with a point, or
with a letter in front and without the point. -/
def age? (name : String) : Option CharSet :=
  let spelled (v : String) : Bool :=
    v == name || "v" ++ String.ofList (v.toList.filter (· != '.')) == name
  if versions.any spelled then
    some (ageSet (versions.takeWhile (fun v => !spelled v) ++ versions.filter spelled))
  else none

/-- The characters with a value of a property whose values have names and labelled runs. -/
def labelledSet? (names : List (List String × String)) (runs : List String) (name : String) :
    Option CharSet :=
  (names.find? fun entry => entry.1.contains name).map fun entry =>
    CharSet.ofRanges (rangesWhere (· == entry.2) 0 (labelledRuns runs))

/-- The characters with a binary property, by one of its normalised names. -/
def binarySet? (name : String) : Option CharSet :=
  (binaryRuns.find? fun entry => entry.1.contains name).map fun entry => alternatingSet entry.2

/-- A name without its leading "is", spaces, hyphens, underscores and case. The name "isc" keeps
its beginning, because it abbreviates something else than the category "c". -/
def normaliseName (name : List Char) : String :=
  let plain (cs : List Char) : List Char :=
    (cs.filter fun c => c.toNat < 0x80 && c != ' ' && c != '-' && c != '_').map Char.toLower
  match name with
  | 'i' :: 's' :: rest | 'I' :: 's' :: rest | 'i' :: 'S' :: rest | 'I' :: 'S' :: rest =>
    if plain rest = ['c'] then "isc" else String.ofList (plain rest)
  | _ => String.ofList (plain name)

/-- The set of a General_Category value or group, by a normalised name. -/
def category? (name : String) : Option CharSet :=
  match name with
  | "any" => some CharSet.all
  | "ascii" => some ⟨[(0, 0x7F)]⟩
  | "assigned" => some (categorySet ["Cn"]).complement
  | _ => (categoryNames.find? fun entry => entry.1.contains name).map fun entry =>
      categorySet entry.2

/-- The characters of a script, by a normalised name. -/
def script? (name : String) : Option CharSet :=
  labelledSet? scriptNames scriptRuns name

/-- The characters whose script extensions include a script, by a normalised name. -/
def scriptExtension? (name : String) : Option CharSet :=
  (scriptNames.find? fun entry => entry.1.contains name).bind fun entry =>
    scriptExtensionSet? entry.2

/-- The set that a property name selects. The abbreviations that a category shares with another
property always mean the category. -/
def property? (name : List Char) : Option CharSet :=
  let name := normaliseName name
  if name ∈ ["cf", "sc", "lc"] then category? name
  else binarySet? name <|> category? name <|> script? name

/-- The set that a property name with a value selects. -/
def propertyValue? (name value : List Char) : Option CharSet :=
  let value := normaliseName value
  match normaliseName name with
  | "gc" | "generalcategory" => category? value
  | "sc" | "script" => script? value
  | "scx" | "scriptextensions" => scriptExtension? value
  | "age" => age? value
  | "gcb" | "graphemeclusterbreak" => labelledSet? graphemeBreakNames graphemeBreakRuns value
  | "wb" | "wordbreak" => labelledSet? wordBreakNames wordBreakRuns value
  | "sb" | "sentencebreak" => labelledSet? sentenceBreakNames sentenceBreakRuns value
  | _ => none

/-- Decimal digits: the category Nd. -/
def digitSet : CharSet :=
  categorySet ["Nd"]

/-- Blank characters: the property White_Space. -/
def blankSet : CharSet :=
  ⟨Text.blankRanges⟩

/-- Word characters: letters and their like, marks, decimal digits, connectors and joiners. -/
def wordSet : CharSet :=
  ((categorySet ["Mn", "Mc", "Me", "Nd", "Pc"]).union
    ((binarySet? "alphabetic").getD CharSet.empty)).union
    ((binarySet? "joincontrol").getD CharSet.empty)

/-- Letters and their like that version 17.0 of the standard adds to those of version 16.0, which
all other sets follow. -/
def laterLetters : CharSet :=
  ⟨[(0x88F, 0x88F), (0xC5C, 0xC5C), (0xCDC, 0xCDC), (0xA7CE, 0xA7CF), (0xA7D2, 0xA7D2),
    (0xA7D4, 0xA7D4), (0xA7F1, 0xA7F1), (0x10940, 0x10959), (0x10EC5, 0x10EC7),
    (0x10EFA, 0x10EFB), (0x11B60, 0x11B67), (0x11DB0, 0x11DDB), (0x16EA0, 0x16EB8),
    (0x16EBB, 0x16ED3), (0x16FF2, 0x16FF6), (0x187F8, 0x187FF), (0x18D09, 0x18D1E),
    (0x18D80, 0x18DF2), (0x1E6C0, 0x1E6DE), (0x1E6E0, 0x1E6F5), (0x1E6FE, 0x1E6FF),
    (0x2B73A, 0x2B73F), (0x2CEA2, 0x2CEAD), (0x323B0, 0x33479)]⟩

/-- Numbers that version 17.0 adds to those of version 16.0. -/
def laterNumbers : CharSet :=
  ⟨[(0x11DE0, 0x11DE9), (0x16FF4, 0x16FF6)]⟩

/-- Letters and their like, by version 17.0: the property Alphabetic. -/
def alphabeticSet : CharSet :=
  ((binarySet? "alphabetic").getD CharSet.empty).union laterLetters

/-- Characters of the categories of numbers, by version 17.0. -/
def numericSet : CharSet :=
  (categorySet ["Nd", "Nl", "No"]).union laterNumbers

/-- The classes of two or more code points that fold alike. -/
def orbits : List (List Nat) :=
  foldOrbits.flatMap fun line => (line.splitOn " ").map fun entry =>
    (entry.splitOn "-").map hexOf

/-- A set together with every character that folds like one of its members. -/
def foldClosure (s : CharSet) : CharSet :=
  let inside (n : Nat) : Bool := s.ranges.any fun r => r.1 ≤ n && n ≤ r.2
  CharSet.ofRanges (s.ranges ++
    ((orbits.filter fun orbit => orbit.any inside).flatten.map fun n => (n, n)))

/-- A set together with the other case of each of its ASCII letters. -/
def foldClosureAscii (s : CharSet) : CharSet :=
  let upper := s.inter ⟨[('A'.toNat, 'Z'.toNat)]⟩
  let lower := s.inter ⟨[('a'.toNat, 'z'.toNat)]⟩
  CharSet.ofRanges (s.ranges ++
    (upper.ranges.map fun r => (r.1 + 32, r.2 + 32)) ++
    (lower.ranges.map fun r => (r.1 - 32, r.2 - 32)))

end SelectorGuard.Unicode
