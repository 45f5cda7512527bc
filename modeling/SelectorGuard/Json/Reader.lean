import SelectorGuard.Json.Basic

/-!
# Reading JSON documents

The reader takes strict JSON: nothing but blank, tab, line feed and carriage return between the
parts, no raw control characters in texts, surrogates only in pairs. Arrays and objects may stand
inside each other 127 deep, and a number must be in the range of double precision. A part of a
document that nobody asked for is passed over more loosely: its depth, the range of its numbers and
its surrogates are not looked at.
-/

namespace SelectorGuard.Json

/-- How deep arrays and objects may stand inside each other. -/
def depthLimit : Nat := 127

/-- How carefully a document is read. -/
structure Care where
  /-- How much deeper arrays and objects may still go; without a bound nothing is checked. -/
  depth : Option Nat
deriving DecidableEq, Repr

namespace Care

/-- The care for a whole document. -/
def whole : Care := ⟨some depthLimit⟩

/-- No care beyond the grammar. -/
def loose : Care := ⟨none⟩

/-- The care inside an array or object, if one may stand here. -/
def enter (c : Care) : Option Care :=
  match c.depth with
  | none => some c
  | some 0 => none
  | some (n + 1) => some ⟨some n⟩

/-- Numbers must be in range and surrogates in pairs. -/
def isStrict (c : Care) : Bool :=
  c.depth.isSome

end Care

/-- Characters that may stand between the parts of a document. -/
def isSpace (c : Char) : Bool :=
  c == ' ' || c == '\t' || c == '\n' || c == '\r'

/-- Drop what may stand between two parts. -/
def skipSpace (cs : List Char) : List Char :=
  cs.dropWhile isSpace

/-- Whether a number is in one half of the surrogate range. -/
def isHighSurrogate (n : Nat) : Bool := 0xD800 ≤ n && n < 0xDC00

/-- Whether a number is in the other half of the surrogate range. -/
def isLowSurrogate (n : Nat) : Bool := 0xDC00 ≤ n && n < 0xE000

/-- The character after a backslash that stands for another one. -/
def shortEscape? (c : Char) : Option Char :=
  match c with
  | '"' => some '"'
  | '\\' => some '\\'
  | '/' => some '/'
  | 'b' => some '\x08'
  | 'f' => some '\x0C'
  | 'n' => some '\n'
  | 'r' => some '\r'
  | 't' => some '\t'
  | _ => none

/-- Read the inside of a text up to its closing quote. Where surrogates are not looked at, one that
stands alone is read as the replacement character. -/
def readStringBody (strict : Bool) : List Char → Option (List Char × List Char)
  | [] => none
  | '"' :: rest => some ([], rest)
  | '\\' :: 'u' :: a :: b :: c :: d :: rest => do
    let value ← Text.hexNumber? [a, b, c, d]
    if strict && isHighSurrogate value then
      match rest with
      | '\\' :: 'u' :: e :: f :: g :: h :: rest =>
        let low ← Text.hexNumber? [e, f, g, h]
        if isLowSurrogate low then
          let char ← Text.charOfNat? (0x10000 + (value - 0xD800) * 0x400 + (low - 0xDC00))
          let (text, left) ← readStringBody strict rest
          return (char :: text, left)
        else none
      | _ => none
    else
      let char ← if strict then Text.charOfNat? value
        else some ((Text.charOfNat? value).getD '\uFFFD')
      let (text, left) ← readStringBody strict rest
      return (char :: text, left)
  | '\\' :: c :: rest => do
    let char ← shortEscape? c
    let (text, left) ← readStringBody strict rest
    return (char :: text, left)
  | c :: rest => do
    if c = '\\' || c.toNat < 0x20 then none
    let (text, left) ← readStringBody strict rest
    return (c :: text, left)

/-- Read a text between quotes. -/
def readString (strict : Bool) : List Char → Option (String × List Char)
  | '"' :: rest => (readStringBody strict rest).map fun r => (String.ofList r.1, r.2)
  | _ => none

/-- Read a number. One that is whole and has 64 bits is always in range. -/
def readNumber (strict : Bool) (cs : List Char) : Option (Json × List Char) := do
  let (n, left) ← Numeral.read? cs
  if strict && n.toWord?.isNone && n.toFloat?.isNone then none
  return (.number n, left)

/-- Read a name and the colon after it. -/
def readKey (strict : Bool) (cs : List Char) : Option (String × List Char) := do
  let (key, left) ← readString strict (skipSpace cs)
  match skipSpace left with
  | ':' :: rest => some (key, rest)
  | _ => none

mutual

/-- Read one document at the start of a text. The first argument bounds the number of steps; each
step reads a character, so the length of the text suffices. -/
def readValue (fuel : Nat) (care : Care) (cs : List Char) : Option (Json × List Char) :=
  match fuel with
  | 0 => none
  | fuel + 1 =>
    match skipSpace cs with
    | 'n' :: 'u' :: 'l' :: 'l' :: rest => some (.null, rest)
    | 't' :: 'r' :: 'u' :: 'e' :: rest => some (.bool true, rest)
    | 'f' :: 'a' :: 'l' :: 's' :: 'e' :: rest => some (.bool false, rest)
    | '"' :: rest => (readString care.isStrict ('"' :: rest)).map fun r => (.string r.1, r.2)
    | '[' :: rest => do
      let inner ← care.enter
      match skipSpace rest with
      | ']' :: left => some (.array [], left)
      | _ =>
        let (items, left) ← readItems fuel inner rest
        return (.array items, left)
    | '{' :: rest => do
      let inner ← care.enter
      match skipSpace rest with
      | '}' :: left => some (.object [], left)
      | _ =>
        let (members, left) ← readMembers fuel inner rest
        return (.object members, left)
    | cs => readNumber care.isStrict cs

/-- Read items up to the bracket that closes the list. There is at least one. -/
def readItems (fuel : Nat) (care : Care) (cs : List Char) : Option (List Json × List Char) :=
  match fuel with
  | 0 => none
  | fuel + 1 => do
    let (item, left) ← readValue fuel care cs
    match skipSpace left with
    | ']' :: rest => some ([item], rest)
    | ',' :: rest =>
      let (items, left) ← readItems fuel care rest
      return (item :: items, left)
    | _ => none

/-- Read members up to the brace that closes the object. There is at least one. -/
def readMembers (fuel : Nat) (care : Care) (cs : List Char) :
    Option (List (String × Json) × List Char) :=
  match fuel with
  | 0 => none
  | fuel + 1 => do
    let (key, left) ← readKey care.isStrict cs
    let (value, left) ← readValue fuel care left
    match skipSpace left with
    | '}' :: rest => some ([(key, value)], rest)
    | ',' :: rest =>
      let (members, left) ← readMembers fuel care rest
      return ((key, value) :: members, left)
    | _ => none

end

/-- Read a document at the start of a text; the second part is what follows it. -/
def readPrefix (cs : List Char) : Option (Json × List Char) :=
  readValue (2 * cs.length + 2) Care.whole cs

/-- Nothing but space is left. -/
def isEnd (cs : List Char) : Bool :=
  cs.all isSpace

/-- Read a text that holds one document and nothing else. -/
def read? (text : String) : Option Json := do
  let (j, left) ← readPrefix text.toList
  if isEnd left then return j else none

end SelectorGuard.Json
