import SelectorGuard.Pattern.Basic
import SelectorGuard.Text.Blank

/-!
# Modes of reading a pattern

Flags such as `(?i)` change how the rest of a group is read. A mode is the state of the flags. It
decides whether blanks and comments between the parts of a pattern are skipped, and which set or
condition each part stands for. Texts are Unicode, so without the Unicode flag every part that
could match a character beyond ASCII by its bytes is refused.
-/

namespace SelectorGuard.Pattern

/-- The state of the flags. -/
structure Mode where
  /-- Letters match in either case. -/
  ignoreCase : Bool := false
  /-- Line anchors hold at every line of the text. -/
  multiLine : Bool := false
  /-- The dot matches line ends too. -/
  dotAll : Bool := false
  /-- A carriage return ends a line. -/
  crlf : Bool := false
  /-- Classes are those of Unicode, not of ASCII. -/
  unicode : Bool := true
  /-- Blanks and comments are skipped. -/
  extended : Bool := false
  /-- Loops are lazy without a question mark and not with one. -/
  swapped : Bool := false
deriving DecidableEq, Repr

/-- Drop blanks and comments; a comment runs from a number sign to the end of its line. -/
def dropRemarks (inComment : Bool) : List Char → List Char
  | [] => []
  | c :: rest =>
    if inComment then dropRemarks (c != '\n') rest
    else if Text.isBlank c then dropRemarks false rest
    else if c = '#' then dropRemarks true rest
    else c :: rest

/-- Named classes of characters. -/
inductive NamedClass where
  /-- Decimal digits. -/
  | digit
  /-- Blank characters. -/
  | space
  /-- Word characters. -/
  | word
deriving DecidableEq, Repr

/-- The members of a named class. -/
def NamedClass.set (unicode : Bool) : NamedClass → CharSet
  | digit => if unicode then Unicode.digitSet else ⟨[('0'.toNat, '9'.toNat)]⟩
  | space => if unicode then Unicode.blankSet else ⟨[(9, 13), (32, 32)]⟩
  | word => if unicode then Unicode.wordSet else Anchor.asciiWordSet

/-- What a single part of a pattern says, before the mode has given it a meaning. -/
inductive Primitive where
  /-- One character; `byte` marks the spelling with exactly two hexadecimal digits. -/
  | literal (c : Char) (byte : Bool)
  /-- A named class or its complement. -/
  | named (kind : NamedClass) (negated : Bool)
  /-- A property or its complement. -/
  | property (set : CharSet) (negated : Bool)
  /-- A condition on the place. -/
  | anchor (a : Anchor)
deriving DecidableEq, Repr

namespace Mode

/-- What is left to read after blanks and comments, if the mode skips them. -/
def skip (m : Mode) (cs : List Char) : List Char :=
  if m.extended then dropRemarks false cs else cs

/-- A set closed under case, if the mode ignores it. -/
def fold (m : Mode) (s : CharSet) : CharSet :=
  if !m.ignoreCase then s
  else if m.unicode then Unicode.foldClosure s
  else Unicode.foldClosureAscii s

/-- A set or its complement, closed under case first. Without Unicode the complement is taken
among bytes, and bytes beyond ASCII are refused. -/
def foldAndNegate (m : Mode) (negated : Bool) (s : CharSet) : Option CharSet :=
  let folded := m.fold s
  if m.unicode then some (if negated then folded.complement else folded)
  else
    let result := if negated then folded.complementWithin 0xFF else folded
    if result.isAscii then some result else none

/-- The character that a literal stands for: a byte beyond ASCII is none. -/
def literalChar (m : Mode) (c : Char) (byte : Bool) : Option Char :=
  if !m.unicode && byte && 0x80 ≤ c.toNat then none else some c

/-- The set of a literal outside brackets. -/
def literalSet (m : Mode) (c : Char) (byte : Bool) : Option CharSet := do
  let c ← m.literalChar c byte
  return m.fold (CharSet.singleton c)

/-- The set of a named class. -/
def namedSet (m : Mode) (kind : NamedClass) (negated : Bool) : Option CharSet :=
  let s := kind.set m.unicode
  if !negated then some s
  else if m.unicode then some s.complement
  else none

/-- The set of a property, which only Unicode has. -/
def propertySet (m : Mode) (set : CharSet) (negated : Bool) : Option CharSet :=
  if m.unicode then m.foldAndNegate negated set else none

/-- The set that the dot stands for. -/
def dotSet (m : Mode) : Option CharSet :=
  if !m.unicode then none
  else if m.dotAll then some CharSet.all
  else if m.crlf then some (CharSet.ofRanges [(10, 10), (13, 13)]).complement
  else some (CharSet.singleton '\n').complement

/-- The condition that a caret stands for. -/
def caret (m : Mode) : Anchor :=
  if m.multiLine then .lineStart m.crlf else .textStart

/-- The condition that a dollar sign stands for. -/
def dollar (m : Mode) : Anchor :=
  if m.multiLine then .lineEnd m.crlf else .textEnd

/-- The pattern that a single part stands for. -/
def pattern (m : Mode) : Primitive → Option Pattern
  | .literal c byte => (m.literalSet c byte).map .char
  | .named kind negated => (m.namedSet kind negated).map .char
  | .property set negated => (m.propertySet set negated).map .char
  | .anchor a => some (.anchor a)

end Mode

end SelectorGuard.Pattern
