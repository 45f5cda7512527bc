import SelectorGuard.Decimal.Numeral
import SelectorGuard.Text.Quoted

/-!
# JSON documents

A document is a tree of the six JSON kinds. The members of an object keep their order and their
repetitions, because what a document means to its reader may depend on both. Numbers are kept as
numerals. A document is written either in one line without blanks, or over several lines with an
indentation of two blanks for each level.
-/

namespace SelectorGuard

/-- A JSON document. -/
inductive Json where
  /-- The word null. -/
  | null
  /-- The words true and false. -/
  | bool (value : Bool)
  /-- A number. -/
  | number (value : Numeral)
  /-- A text. -/
  | string (value : String)
  /-- A list. -/
  | array (items : List Json)
  /-- Named members in order. -/
  | object (members : List (String × Json))
deriving Repr, Inhabited

namespace Json

/-- A natural number. -/
def ofNat (n : Nat) : Json :=
  .number (Numeral.ofNat n)

/-- A number of double precision; those that are not finite become null. -/
def ofFloat (x : Float) : Json :=
  match Numeral.ofFloat? x with
  | some n => .number n
  | none => .null

/-- A list of texts. -/
def ofStrings (texts : List String) : Json :=
  .array (texts.map .string)

/-- The spelling of one character inside a JSON text. -/
def escape (c : Char) : List Char :=
  if c = '"' then ['\\', '"']
  else if c = '\\' then ['\\', '\\']
  else if c = '\x08' then ['\\', 'b']
  else if c = '\t' then ['\\', 't']
  else if c = '\n' then ['\\', 'n']
  else if c = '\x0C' then ['\\', 'f']
  else if c = '\r' then ['\\', 'r']
  else if c.toNat < 0x20 then '\\' :: 'u' :: Text.hexFour c.toNat
  else [c]

/-- A JSON text between quotes. -/
def stringChars (s : String) : List Char :=
  '"' :: (s.toList.flatMap escape ++ ['"'])

/-- The spelling of the documents without parts. -/
def atomChars : Json → List Char
  | .null => "null".toList
  | .bool true => "true".toList
  | .bool false => "false".toList
  | .number n => n.chars
  | .string s => stringChars s
  | _ => []

mutual

/-- A document in one line. -/
def chars : Json → List Char
  | .array items => '[' :: itemsChars items ++ [']']
  | .object members => '{' :: membersChars members ++ ['}']
  | .null => atomChars .null
  | .bool b => atomChars (.bool b)
  | .number n => atomChars (.number n)
  | .string s => atomChars (.string s)

/-- The items of a list, separated by commas. -/
def itemsChars : List Json → List Char
  | [] => []
  | [j] => chars j
  | j :: rest => chars j ++ ',' :: itemsChars rest

/-- The members of an object, separated by commas. -/
def membersChars : List (String × Json) → List Char
  | [] => []
  | [(k, j)] => stringChars k ++ ':' :: chars j
  | (k, j) :: rest => stringChars k ++ ':' :: chars j ++ ',' :: membersChars rest

end

/-- A line break with the indentation of a level. -/
def newline (level : Nat) : List Char :=
  '\n' :: List.replicate (2 * level) ' '

mutual

/-- A document over several lines, at a level of indentation. -/
def prettyChars (level : Nat) : Json → List Char
  | .array [] => ['[', ']']
  | .array (j :: rest) =>
    '[' :: prettyItems level (j :: rest) ++ newline level ++ [']']
  | .object [] => ['{', '}']
  | .object (m :: rest) =>
    '{' :: prettyMembers level (m :: rest) ++ newline level ++ ['}']
  | .null => atomChars .null
  | .bool b => atomChars (.bool b)
  | .number n => atomChars (.number n)
  | .string s => atomChars (.string s)

/-- The items of a list, each on a line of its own. -/
def prettyItems (level : Nat) : List Json → List Char
  | [] => []
  | [j] => newline (level + 1) ++ prettyChars (level + 1) j
  | j :: rest =>
    newline (level + 1) ++ prettyChars (level + 1) j ++ ',' :: prettyItems level rest

/-- The members of an object, each on a line of its own. -/
def prettyMembers (level : Nat) : List (String × Json) → List Char
  | [] => []
  | [(k, j)] => newline (level + 1) ++ stringChars k ++ ':' :: ' ' :: prettyChars (level + 1) j
  | (k, j) :: rest =>
    newline (level + 1) ++ stringChars k ++ ':' :: ' ' :: prettyChars (level + 1) j ++
      ',' :: prettyMembers level rest

end

/-- The text of a document in one line. -/
def render (j : Json) : String :=
  String.ofList j.chars

/-- The text of a document over several lines. -/
def renderPretty (j : Json) : String :=
  String.ofList (j.prettyChars 0)

mutual

/-- How many arrays and objects stand inside each other at the deepest place. -/
def depth : Json → Nat
  | .array items => itemsDepth items + 1
  | .object members => membersDepth members + 1
  | .null | .bool _ | .number _ | .string _ => 0

/-- The greatest depth of the items of a list. -/
def itemsDepth : List Json → Nat
  | [] => 0
  | j :: rest => max (depth j) (itemsDepth rest)

/-- The greatest depth of the members of an object. -/
def membersDepth : List (String × Json) → Nat
  | [] => 0
  | (_, j) :: rest => max (depth j) (membersDepth rest)

end

end Json

end SelectorGuard
