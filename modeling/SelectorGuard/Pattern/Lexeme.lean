import SelectorGuard.Pattern.Mode
import SelectorGuard.Text.Quoted

/-!
# Parts of a pattern

Readers for the parts of a pattern that do not nest: escapes, repetition counts, group names and
flags. Each takes what is left to read and returns a meaning with what is then left, or nothing if
the text is not well formed.
-/

namespace SelectorGuard.Pattern

open Text (hexNumber? hexValue? charOfNat? isBlank)

/-- Characters with a meaning of their own in patterns. -/
def metaCharacters : List Char :=
  ['\\', '.', '+', '*', '?', '(', ')', '|', '[', ']', '{', '}', '^', '$', '#', '&', '-', '~']

/-- Characters that may follow a backslash to stand for themselves: the meta characters and all
other ASCII characters except letters, digits and angle brackets. -/
def isEscapable (c : Char) : Bool :=
  metaCharacters.contains c || (c.toNat < 0x80 && !c.isAlphanum && c != '<' && c != '>')

/-- Take characters while they pass a test, skipping what the mode skips after each of them. The
first argument bounds the number taken. -/
def gatherUpTo (m : Mode) (test : Char → Bool) : Nat → List Char → List Char × List Char
  | _, [] => ([], [])
  | 0, cs => ([], cs)
  | n + 1, c :: rest =>
    if test c then
      let (taken, left) := gatherUpTo m test n (m.skip rest)
      (c :: taken, left)
    else ([], c :: rest)

/-- Take characters while they pass a test, starting behind one that was taken: blanks and comments
are skipped first if the mode skips them. -/
def gatherOn (m : Mode) (test : Char → Bool) (inComment : Bool) :
    List Char → List Char × List Char
  | [] => ([], [])
  | c :: rest =>
    if inComment then gatherOn m test (c != '\n') rest
    else if m.extended && isBlank c then gatherOn m test false rest
    else if m.extended && c == '#' then gatherOn m test true rest
    else if test c then
      let (taken, left) := gatherOn m test false rest
      (c :: taken, left)
    else ([], c :: rest)

/-- Take characters while they pass a test, skipping what the mode skips after each of them. -/
def gather (m : Mode) (test : Char → Bool) : List Char → List Char × List Char
  | [] => ([], [])
  | c :: rest =>
    if test c then
      let (taken, left) := gatherOn m test false rest
      (c :: taken, left)
    else ([], c :: rest)

/-- The code point of a hexadecimal escape in braces, after the opening brace. -/
def readBracedHex (m : Mode) (cs : List Char) : Option (Char × List Char) :=
  match gather m (fun c => (hexValue? c).isSome) (m.skip cs) with
  | (digits@(_ :: _), '}' :: rest) => do
    let c ← charOfNat? (← hexNumber? digits)
    return (c, m.skip rest)
  | _ => none

/-- The code point of a hexadecimal escape with a fixed number of digits. -/
def readFixedHex (m : Mode) (count : Nat) (cs : List Char) : Option (Char × List Char) :=
  let (digits, rest) := gatherUpTo m (fun c => (hexValue? c).isSome) count cs
  if digits.length = count then do
    let c ← charOfNat? (← hexNumber? digits)
    return (c, rest)
  else none

/-- A hexadecimal escape, after its letter. -/
def readHex (m : Mode) (count : Nat) (cs : List Char) : Option (Primitive × List Char) :=
  match m.skip cs with
  | '{' :: rest => (readBracedHex m rest).map fun r => (.literal r.1 false, r.2)
  | rest => (readFixedHex m count rest).map fun r => (.literal r.1 (count == 2), r.2)

/-- Cut a text at the first occurrence of a separator of one or two characters. -/
def cutAt (separator : List Char) : List Char → Option (List Char × List Char)
  | [] => none
  | c :: rest =>
    if separator.isPrefixOf (c :: rest) then some ([], (c :: rest).drop separator.length)
    else (cutAt separator rest).map fun r => (c :: r.1, r.2)

/-- The set that the text between the braces of a property escape selects, with whether the text
asks for the characters outside it. -/
def bracedProperty? (name : List Char) : Option (CharSet × Bool) :=
  match cutAt ['!', '='] name with
  | some (property, value) =>
    (Unicode.propertyValue? property value).map fun set => (set, true)
  | none =>
    let set := match cutAt [':'] name with
      | some (property, value) => Unicode.propertyValue? property value
      | none =>
        match cutAt ['='] name with
        | some (property, value) => Unicode.propertyValue? property value
        | none => Unicode.property? name
    set.map fun set => (set, false)

/-- A property escape, after its letter. -/
def readProperty (m : Mode) (negated : Bool) (cs : List Char) : Option (Primitive × List Char) :=
  match m.skip cs with
  | [] => none
  | '{' :: rest =>
    match gather m (· != '}') (m.skip rest) with
    | (name, '}' :: left) =>
      (bracedProperty? name).map fun (set, outside) => (.property set (negated != outside), left)
    | _ => none
  | c :: rest =>
    if c = '\\' then none
    else (Unicode.property? [c]).map fun set => (.property set negated, m.skip rest)

/-- The condition named after a word boundary escape, if braces with a name follow. -/
def readBoundary (m : Mode) (cs : List Char) : Option (Primitive × List Char) :=
  let ascii := !m.unicode
  let plain : Primitive := .anchor (.wordEdge ascii)
  let isNameChar (c : Char) : Bool := c.isAlpha || c == '-'
  match cs with
  | '{' :: rest =>
    match m.skip rest with
    | [] => none
    | c :: inner =>
      if !isNameChar c then some (plain, cs)
      else
        match gather m isNameChar (c :: inner) with
        | (name, '}' :: left) =>
          match String.ofList name with
          | "start" => some (.anchor (.wordStart ascii), left)
          | "end" => some (.anchor (.wordEnd ascii), left)
          | "start-half" => some (.anchor (.wordStartHalf ascii), left)
          | "end-half" => some (.anchor (.wordEndHalf ascii), left)
          | _ => none
        | _ => none
  | _ => some (plain, cs)

/-- An escape, after its backslash. -/
def readEscape (m : Mode) : List Char → Option (Primitive × List Char)
  | [] => none
  | c :: rest =>
    if isEscapable c then some (.literal c false, rest)
    else match c with
    | 'x' => readHex m 2 rest
    | 'u' => readHex m 4 rest
    | 'U' => readHex m 8 rest
    | 'p' => readProperty m false rest
    | 'P' => readProperty m true rest
    | 'd' => some (.named .digit false, rest)
    | 'D' => some (.named .digit true, rest)
    | 's' => some (.named .space false, rest)
    | 'S' => some (.named .space true, rest)
    | 'w' => some (.named .word false, rest)
    | 'W' => some (.named .word true, rest)
    | 'a' => some (.literal '\x07' false, rest)
    | 'f' => some (.literal '\x0C' false, rest)
    | 't' => some (.literal '\t' false, rest)
    | 'n' => some (.literal '\n' false, rest)
    | 'r' => some (.literal '\r' false, rest)
    | 'v' => some (.literal '\x0B' false, rest)
    | 'A' => some (.anchor .textStart, rest)
    | 'z' => some (.anchor .textEnd, rest)
    | 'b' => readBoundary m rest
    | 'B' => some (.anchor (.wordInner (!m.unicode)), rest)
    | '<' => some (.anchor (.wordStart (!m.unicode)), rest)
    | '>' => some (.anchor (.wordEnd (!m.unicode)), rest)
    | _ => none

/-- A decimal count, with blanks around it. It must fit a word of 32 bits. -/
def readCount (m : Mode) (cs : List Char) : Option (Nat × List Char) :=
  let (digits, rest) := gather m Char.isDigit (Text.trimStart cs)
  let value := digits.foldl (fun n d => n * 10 + (d.toNat - '0'.toNat)) 0
  if digits.isEmpty || 0x100000000 ≤ value then none
  else some (value, if m.extended then rest else Text.trimStart rest)

/-- A question mark after a repetition makes it lazy. -/
def readLazily : List Char → Bool × List Char
  | '?' :: rest => (true, rest)
  | cs => (false, cs)

/-- The bounds of a counted repetition, after the opening brace. -/
def readBounds (m : Mode) (cs : List Char) : Option (Nat × Option Nat × List Char) := do
  let (least, rest) ← readCount m (m.skip cs)
  match rest with
  | '}' :: left => return (least, some least, m.skip left)
  | ',' :: rest =>
    match m.skip rest with
    | '}' :: left => return (least, none, m.skip left)
    | rest =>
      match ← readCount m rest with
      | (most, '}' :: left) =>
        if least ≤ most then return (least, some most, m.skip left) else none
      | _ => none
  | _ => none

/-- First characters of a group name. -/
def isGroupNameStart (c : Char) : Bool :=
  c == '_' || Unicode.alphabeticSet.contains c

/-- Later characters of a group name. -/
def isGroupNameRest (c : Char) : Bool :=
  c == '_' || c == '.' || c == '[' || c == ']' ||
    Unicode.alphabeticSet.contains c || Unicode.numericSet.contains c

/-- A group name, after its opening angle bracket. -/
def readGroupName (cs : List Char) : Option (List Char × List Char) :=
  match cs.span (· != '>') with
  | (name@(c :: later), _ :: rest) =>
    if isGroupNameStart c && later.all isGroupNameRest then some (name, rest) else none
  | _ => none

/-- The letters of the flags. -/
def flagLetters : List Char := ['i', 'm', 's', 'U', 'u', 'R', 'x']

/-- A run of flags is well formed when each letter and the minus sign occur at most once and the
minus sign is not the last. -/
def areFlags (items : List Char) : Bool :=
  (items.all fun c => c == '-' || flagLetters.contains c) && items.eraseDups.length == items.length
    && items.getLast? != some '-'

/-- Set or clear one flag. -/
def Mode.assign (m : Mode) (value : Bool) (flag : Char) : Mode :=
  match flag with
  | 'i' => { m with ignoreCase := value }
  | 'm' => { m with multiLine := value }
  | 's' => { m with dotAll := value }
  | 'R' => { m with crlf := value }
  | 'u' => { m with unicode := value }
  | 'x' => { m with extended := value }
  | 'U' => { m with swapped := value }
  | _ => m

/-- Apply a run of flags: those before a minus sign are set, those after it cleared. -/
def Mode.assignAll (m : Mode) (items : List Char) : Mode :=
  let (positive, negative) := items.span (· != '-')
  (negative.drop 1).foldl (fun m c => m.assign false c)
    (positive.foldl (fun m c => m.assign true c) m)

/-- How a group opens. -/
inductive Opening where
  /-- A group that remembers its stretch, with its name if it has one. -/
  | capture (name : Option (List Char))
  /-- A group that does not, with flags for its inside. -/
  | plain (flags : List Char)
  /-- No group but flags for what follows. -/
  | directive (flags : List Char)
deriving DecidableEq, Repr

/-- Flags after a parenthesis and a question mark, up to the mark that ends them. -/
def readFlags (cs : List Char) : Option (Opening × List Char) :=
  match cs.span fun c => c != ':' && c != ')' with
  | (flags, ':' :: left) => if areFlags flags then some (.plain flags, left) else none
  | (flags, ')' :: left) =>
    if areFlags flags && !flags.isEmpty then some (.directive flags, left) else none
  | _ => none

/-- The kind of a group, after its parenthesis and question mark. Looking ahead or behind is not
supported. -/
def readKind : List Char → Option (Opening × List Char)
  | '=' :: _ | '!' :: _ | '<' :: '=' :: _ | '<' :: '!' :: _ => none
  | 'P' :: '<' :: rest | '<' :: rest =>
    (readGroupName rest).map fun r => (.capture (some r.1), r.2)
  | rest => readFlags rest

/-- The opening of a group, after its parenthesis. -/
def readOpening (m : Mode) (cs : List Char) : Option (Opening × List Char) :=
  match m.skip cs with
  | '?' :: rest => readKind rest
  | rest => some (.capture none, rest)

end SelectorGuard.Pattern
