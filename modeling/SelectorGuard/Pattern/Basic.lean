import SelectorGuard.CharSet
import SelectorGuard.Unicode.Property

/-!
# Patterns

A pattern is a tree over sets of characters and conditions on the place between two characters.
The relation `Pattern.Matches` says which stretches of a text a pattern matches; it is the meaning
against which the search is to be judged. A place is counted in characters from the start of the
text, so a text of n characters has the places 0 to n.
-/

namespace SelectorGuard

/-- A condition on a place in a text. -/
inductive Anchor where
  /-- Nothing stands before. -/
  | textStart
  /-- Nothing stands after. -/
  | textEnd
  /-- A line starts here; with `crlf` a carriage return ends a line too. -/
  | lineStart (crlf : Bool)
  /-- A line ends here. -/
  | lineEnd (crlf : Bool)
  /-- Exactly one neighbour is a word character; with `ascii` only ASCII ones count. -/
  | wordEdge (ascii : Bool)
  /-- Both neighbours are word characters, or neither is. -/
  | wordInner (ascii : Bool)
  /-- A word starts here. -/
  | wordStart (ascii : Bool)
  /-- A word ends here. -/
  | wordEnd (ascii : Bool)
  /-- No word character stands before. -/
  | wordStartHalf (ascii : Bool)
  /-- No word character stands after. -/
  | wordEndHalf (ascii : Bool)
deriving DecidableEq, Repr

namespace Anchor

/-- Word characters of the ASCII range. -/
def asciiWordSet : CharSet :=
  ⟨[('0'.toNat, '9'.toNat), ('A'.toNat, 'Z'.toNat), ('_'.toNat, '_'.toNat),
    ('a'.toNat, 'z'.toNat)]⟩

/-- A neighbour that is there and is a word character. -/
def isWord (ascii : Bool) (c : Option Char) : Bool :=
  c.any fun c => if ascii then asciiWordSet.contains c else Unicode.wordSet.contains c

/-- Whether the condition holds between two neighbours, none standing for an end of the text. -/
def holds (a : Anchor) (before after : Option Char) : Bool :=
  match a with
  | textStart => before.isNone
  | textEnd => after.isNone
  | lineStart false => before.isNone || before == some '\n'
  | lineEnd false => after.isNone || after == some '\n'
  | lineStart true =>
    before.isNone || before == some '\n' || (before == some '\r' && after != some '\n')
  | lineEnd true =>
    after.isNone || after == some '\r' || (after == some '\n' && before != some '\r')
  | wordEdge ascii => isWord ascii before != isWord ascii after
  | wordInner ascii => isWord ascii before == isWord ascii after
  | wordStart ascii => !isWord ascii before && isWord ascii after
  | wordEnd ascii => isWord ascii before && !isWord ascii after
  | wordStartHalf ascii => !isWord ascii before
  | wordEndHalf ascii => !isWord ascii after

end Anchor

/-- A pattern over characters. -/
inductive Pattern where
  /-- Matches the empty stretch. -/
  | empty
  /-- Matches one character of a set. -/
  | char (set : CharSet)
  /-- Matches the empty stretch where a condition holds. -/
  | anchor (condition : Anchor)
  /-- One pattern, then another. -/
  | seq (first second : Pattern)
  /-- Either of two patterns. -/
  | alt (left right : Pattern)
  /-- At least `least` rounds of the body, and at most `most` if there is a bound. A search that
  goes round lazily tries few rounds first, which does not change what is matched. -/
  | loop (body : Pattern) (least : Nat) (most : Option Nat) (lazily : Bool)
  /-- A group, whose stretch is remembered or not; it matches like its body. -/
  | group (remembered : Bool) (body : Pattern)
deriving DecidableEq, Repr, Inhabited

namespace Pattern

/-- The character before a place. -/
def before (text : List Char) (i : Nat) : Option Char :=
  if i = 0 then none else text[i - 1]?

/-- A pattern matches a text from one place to another. -/
inductive Matches (text : List Char) : Pattern → Nat → Nat → Prop where
  | empty {i : Nat} (inside : i ≤ text.length) : Matches text .empty i i
  | char {set : CharSet} {i : Nat} {c : Char} (read : text[i]? = some c)
      (member : set.contains c = true) : Matches text (.char set) i (i + 1)
  | anchor {condition : Anchor} {i : Nat} (inside : i ≤ text.length)
      (holds : condition.holds (before text i) text[i]? = true) :
      Matches text (.anchor condition) i i
  | seq {first second : Pattern} {i j k : Nat} :
      Matches text first i j → Matches text second j k → Matches text (.seq first second) i k
  | left {left right : Pattern} {i j : Nat} :
      Matches text left i j → Matches text (.alt left right) i j
  | right {left right : Pattern} {i j : Nat} :
      Matches text right i j → Matches text (.alt left right) i j
  | stop {body : Pattern} {most : Option Nat} {lazily : Bool} {i : Nat}
      (inside : i ≤ text.length) : Matches text (.loop body 0 most lazily) i i
  | round {body : Pattern} {least : Nat} {most : Option Nat} {lazily : Bool} {i j k : Nat}
      (more : most ≠ some 0) : Matches text body i j →
      Matches text (.loop body (least - 1) (most.map (· - 1)) lazily) j k →
      Matches text (.loop body least most lazily) i k
  | group {remembered : Bool} {body : Pattern} {i j : Nat} :
      Matches text body i j → Matches text (.group remembered body) i j

/-- A pattern occurs in a text when it matches some stretch of it. -/
def Occurs (p : Pattern) (text : List Char) : Prop :=
  ∃ i j, Matches text p i j

/-- The patterns one after the other. -/
def sequence : List Pattern → Pattern
  | [] => .empty
  | [p] => p
  | p :: rest => .seq p (sequence rest)

/-- Any one of the patterns; there must be one. -/
def choice : Pattern → List Pattern → Pattern
  | p, [] => p
  | p, q :: rest => .alt p (choice q rest)

end Pattern

end SelectorGuard
