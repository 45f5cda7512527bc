import SelectorGuard.Pattern.Lexeme

/-!
# Bracketed sets

A bracketed set lists characters, ranges, classes and further bracketed sets, possibly negated.
Lists may be joined by the operators for intersection, difference and symmetric difference, which
all bind alike and from the left. Sets nest, so the reader keeps the brackets that are still open
in a stack. Beside each set it keeps how deeply its parts nest.
-/

namespace SelectorGuard.Pattern

/-- An operator between two lists in a bracketed set. -/
inductive SetOperator where
  /-- Members of both. -/
  | intersection
  /-- Members of the left list only. -/
  | difference
  /-- Members of exactly one list. -/
  | symmetricDifference
deriving DecidableEq, Repr

/-- The set that an operator makes of two. -/
def SetOperator.apply (o : SetOperator) (s t : CharSet) : CharSet :=
  match o with
  | intersection => s.inter t
  | difference => s.diff t
  | symmetricDifference => s.symmDiff t

/-- A set with the depth of its parts. -/
structure Operand where
  /-- The members. -/
  set : CharSet
  /-- How deeply the parts nest. -/
  depth : Nat
deriving DecidableEq, Repr

/-- A bracket that is open. -/
structure Bracket where
  /-- A caret follows the bracket. -/
  negated : Bool
  /-- What stands before the last operator, with that operator. -/
  left : Option (Operand × SetOperator)
  /-- The parts since the last operator, the latest first. -/
  parts : List Operand
deriving DecidableEq, Repr

namespace Bracket

/-- Add a part. -/
def add (b : Bracket) (part : Operand) : Bracket :=
  { b with parts := part :: b.parts }

/-- The list since the last operator as one operand. A list of two parts or more nests. -/
def list (b : Bracket) : Operand :=
  match b.parts with
  | [] => ⟨CharSet.empty, 0⟩
  | [part] => part
  | parts =>
    ⟨CharSet.ofRanges (parts.flatMap fun part => part.set.ranges),
      (parts.map Operand.depth).foldl max 0 + 1⟩

/-- All that was read, the pending operator applied. -/
def joined (m : Mode) (b : Bracket) : Operand :=
  match b.left with
  | none => b.list
  | some (left, o) =>
    ⟨o.apply (m.fold left.set) (m.fold b.list.set), max left.depth b.list.depth + 1⟩

/-- Start a new list after an operator. -/
def operate (m : Mode) (b : Bracket) (o : SetOperator) : Bracket :=
  { b with left := some (b.joined m, o), parts := [] }

/-- The set of a bracket that closes. -/
def close (m : Mode) (b : Bracket) : Option Operand := do
  let inner := b.joined m
  let set ← m.foldAndNegate b.negated inner.set
  return ⟨set, inner.depth + 1⟩

end Bracket

/-- The start of the parts of a bracket. A closing bracket that comes first stands for itself, and
so does any number of minus signs. -/
def openParts (m : Mode) (negated : Bool) (cs : List Char) : Option (Bracket × List Char) :=
  let (minuses, rest) := gather m (· == '-') cs
  let parts := minuses.map fun c => Operand.mk (CharSet.singleton c) 0
  match rest with
  | [] => none
  | ']' :: more =>
    if minuses.isEmpty then
      match m.skip more with
      | [] => none
      | left => some (⟨negated, none, [⟨CharSet.singleton ']', 0⟩]⟩, left)
    else some (⟨negated, none, parts⟩, rest)
  | _ => some (⟨negated, none, parts⟩, rest)

/-- Open a bracket, after its character. A caret may follow. -/
def openBracket (m : Mode) (cs : List Char) : Option (Bracket × List Char) :=
  match m.skip cs with
  | '^' :: rest => openParts m true (m.skip rest)
  | start => openParts m false start

/-- The members of the POSIX classes. -/
def posixClass? (name : String) : Option CharSet :=
  match name with
  | "alnum" => some ⟨[(48, 57), (65, 90), (97, 122)]⟩
  | "alpha" => some ⟨[(65, 90), (97, 122)]⟩
  | "ascii" => some ⟨[(0, 127)]⟩
  | "blank" => some ⟨[(9, 9), (32, 32)]⟩
  | "cntrl" => some ⟨[(0, 31), (127, 127)]⟩
  | "digit" => some ⟨[(48, 57)]⟩
  | "graph" => some ⟨[(33, 126)]⟩
  | "lower" => some ⟨[(97, 122)]⟩
  | "print" => some ⟨[(32, 126)]⟩
  | "punct" => some ⟨[(33, 47), (58, 64), (91, 96), (123, 126)]⟩
  | "space" => some ⟨[(9, 13), (32, 32)]⟩
  | "upper" => some ⟨[(65, 90)]⟩
  | "word" => some ⟨[(48, 57), (65, 90), (95, 95), (97, 122)]⟩
  | "xdigit" => some ⟨[(48, 57), (65, 70), (97, 102)]⟩
  | _ => none

/-- The name of a POSIX class and what closes it. -/
def readPosixName (negated : Bool) (cs : List Char) : Option (CharSet × Bool × List Char) :=
  match cs.span (· != ':') with
  | (name, ':' :: ']' :: left) =>
    (posixClass? (String.ofList name)).map fun set => (set, negated, left)
  | _ => none

/-- A POSIX class between colons and brackets, after its opening bracket. Nothing means that the
bracket opens an ordinary set instead. -/
def readPosixClass : List Char → Option (CharSet × Bool × List Char)
  | ':' :: '^' :: rest => readPosixName true rest
  | ':' :: rest => readPosixName false rest
  | _ => none

/-- One character or escape inside brackets. -/
def readBracketPrimitive (m : Mode) : List Char → Option (Primitive × List Char)
  | [] => none
  | '\\' :: rest => readEscape m rest
  | c :: rest => some (.literal c false, rest)

/-- The character that a primitive in brackets stands for, as an end of a range. -/
def endpoint (m : Mode) : Primitive → Option Char
  | .literal c byte => do
    let c ← m.literalChar c byte
    if m.unicode || c.toNat < 0x80 then return c else none
  | _ => none

/-- The set that a primitive in brackets stands for. Case is ignored only later. -/
def memberSet (m : Mode) : Primitive → Option CharSet
  | .named kind negated => m.namedSet kind negated
  | .property set negated => m.propertySet set negated
  | .anchor _ => none
  | p => (endpoint m p).map CharSet.singleton

/-- The next character that is neither blank nor in front of a comment, as the reader looks ahead
after a minus sign. -/
def lookAhead (m : Mode) (cs : List Char) : Option Char :=
  if m.extended then
    match cs.dropWhile Text.isBlank with
    | [] => cs.head?
    | '#' :: rest =>
      match rest.dropWhile Text.isBlank with
      | [] => cs.head?
      | c :: _ => some c
    | c :: _ => some c
  else cs.head?

/-- A character, class or range in brackets. A minus sign makes a range unless a closing bracket
or another minus sign follows it. -/
def readMember (m : Mode) (cs : List Char) : Option (CharSet × List Char) := do
  let (first, rest) ← readBracketPrimitive m cs
  let rest := m.skip rest
  match rest with
  | [] => none
  | '-' :: more =>
    if lookAhead m more == some ']' || lookAhead m more == some '-' then
      return (← memberSet m first, rest)
    else
      let (last, left) ← readBracketPrimitive m (m.skip more)
      let a ← endpoint m first
      let b ← endpoint m last
      if a.toNat ≤ b.toNat then return (CharSet.between a b, left) else none
  | _ => return (← memberSet m first, rest)

/-- Read on inside brackets until the outermost one closes. The first argument bounds the number
of steps, each of which reads at least one character. -/
def readBracket (m : Mode) : Nat → Bracket → List Bracket → List Char →
    Option (Operand × List Char)
  | 0, _, _, _ => none
  | n + 1, b, outer, cs =>
    match m.skip cs with
    | [] => none
    | '[' :: rest =>
      match readPosixClass rest with
      | some (set, negated, left) => do
        let set ← m.foldAndNegate negated set
        readBracket m n (b.add ⟨set, 0⟩) outer left
      | none => do
        let (inner, left) ← openBracket m rest
        readBracket m n inner (b :: outer) left
    | ']' :: rest => do
      let closed ← b.close m
      match outer with
      | [] => return (closed, rest)
      | parent :: others => readBracket m n (parent.add closed) others rest
    | '&' :: '&' :: rest => readBracket m n (b.operate m .intersection) outer rest
    | '-' :: '-' :: rest => readBracket m n (b.operate m .difference) outer rest
    | '~' :: '~' :: rest => readBracket m n (b.operate m .symmetricDifference) outer rest
    | cs => do
      let (set, left) ← readMember m cs
      readBracket m n (b.add ⟨set, 0⟩) outer left

end SelectorGuard.Pattern
