import SelectorGuard.Pattern.Utf8
import Std.Data.HashMap

/-!
# Growing a machine by a set of characters

A machine is a list of states, each of 32 bytes, some of which need more bytes for their ways out.
Only its extent is kept here, the number of states and the bytes that they need beyond their own.
The number of states is also the name of the next one.

A set of ASCII characters takes two states. Any other set takes one machine over its byte sequences,
in which states with the same ways out are made once. Forwards the sequences share beginnings and
ends, backwards only ends. To find a state again its ways out are hashed into a table with a fixed
number of slots, in which a later entry displaces an earlier one, so that some states are made twice
after all. Which ones depends on the names of the states, and thus on the extent so far.
-/

namespace SelectorGuard.Pattern

/-- The extent of a machine. -/
structure Extent where
  /-- The number of states, and the name of the next one. -/
  states : Nat
  /-- The bytes that states need beyond 32 for each. -/
  more : Nat
deriving DecidableEq, Repr, Inhabited

namespace Extent

/-- The size of a machine in bytes. -/
def bytes (e : Extent) : Nat :=
  32 * e.states + e.more

/-- Grow by a number of states that need a number of bytes more. -/
def grow (e : Extent) (states more : Nat) : Extent :=
  ⟨e.states + states, e.more + more⟩

end Extent

/-- A way out of a state: over a byte in a range to a state. -/
structure Way where
  /-- The bytes. -/
  range : ByteRange
  /-- The state it leads to. -/
  target : Nat
deriving DecidableEq, Repr, Inhabited

/-- A state that has been made: its ways out, and its name. -/
abbrev Made := List Way × Nat

/-- A table of states by the hash of their ways out. -/
abbrev Slots := Std.HashMap Nat Made

/-- Mix a number into a hash. -/
def mix (hash : UInt64) (n : Nat) : UInt64 :=
  (hash ^^^ UInt64.ofNat n) * 1099511628211

/-- The hash of numbers. -/
def hashOf (numbers : List Nat) : UInt64 :=
  numbers.foldl mix 14695981039346656037

/-- The slots of the table for growing forwards. -/
def forwardSlots : Nat := 10000

/-- The slots of the table for growing backwards. -/
def backwardSlots : Nat := 1000

/-- A machine that grows, with the states that can still be found again. -/
structure Growth where
  /-- The extent so far. -/
  extent : Extent
  /-- The states that can be found again. -/
  made : Slots

namespace Growth

/-- Make the state with given ways out, to be found again in a slot. The new state needs a number of
bytes more. -/
def make (g : Growth) (slot : Nat) (ways : List Way) (more : Nat) : Nat × Growth :=
  let name := g.extent.states
  (name, ⟨g.extent.grow 1 more, g.made.insert slot (ways, name)⟩)

/-- Find or make the state with given ways out, whose slot is given. -/
def state (g : Growth) (slot : Nat) (ways : List Way) (more : Nat) : Nat × Growth :=
  match g.made[slot]? with
  | some (known, name) => if known = ways then (name, g) else g.make slot ways more
  | none => g.make slot ways more

/-- Find or make a state on the way forwards. -/
def forwardState (g : Growth) (ways : List Way) : Nat × Growth :=
  let hash := hashOf (ways.flatMap fun w => [w.range.1, w.range.2, w.target])
  g.state (hash.toNat % forwardSlots) ways (8 * ways.length)

/-- Find or make a state on the way backwards, which has one way out. -/
def backwardState (g : Growth) (way : Way) : Nat × Growth :=
  let hash := hashOf [way.target, way.range.1, way.range.2]
  g.state (hash.toNat % backwardSlots) [way] 0

end Growth

/-- A state that is still open, as byte sequences are added in order. -/
structure Open where
  /-- The ways out whose targets are known, the latest first. -/
  ways : List Way
  /-- The bytes of the latest way out, whose target is still open too. -/
  latest : Option ByteRange
deriving DecidableEq, Repr, Inhabited

/-- Fix the target of the latest way out. -/
def Open.fix (o : Open) (target : Nat) : Open :=
  match o.latest with
  | none => o
  | some range => ⟨⟨range, target⟩ :: o.ways, none⟩

/-- Make the states of a path, from its end to its beginning. The last one leads to the target;
the name of the first one is returned, or the target if there is none. -/
def finishPath (target : Nat) : List Open → Growth → Nat × Growth
  | [], g => (target, g)
  | o :: deeper, g =>
    let (next, g) := finishPath target deeper g
    g.forwardState (o.fix next).ways.reverse

/-- Add a byte sequence to the open path. What it shares with the path stays open, what lies beyond
that is made, and the rest of the sequence is opened. -/
def extendPath (target : Nat) : List Open → List ByteRange → Growth → List Open × Growth
  | path, [], g => (path, g)
  | [], range :: rest, g => ((range :: rest).map fun r => ⟨[], some r⟩, g)
  | o :: deeper, range :: rest, g =>
    if o.latest = some range then
      let (deeper, g) := extendPath target deeper rest g
      (o :: deeper, g)
    else
      let (next, g) := finishPath target deeper g
      ({ o.fix next with latest := some range } :: rest.map fun r => ⟨[], some r⟩, g)

/-- Grow forwards by a set that is given by its byte sequences: first the state behind it, then the
states that lead there. -/
def growForwards (sequences : List (List ByteRange)) (e : Extent) : Extent :=
  let target := e.states
  let (path, g) := sequences.foldl (fun (path, g) s => extendPath target path s g)
    ([⟨[], none⟩], ⟨e.grow 1 0, ∅⟩)
  (finishPath target path g).2.extent

/-- Grow backwards by a byte sequence, from the target on. -/
def extendBack (target : Nat) (s : List ByteRange) (g : Growth) : Growth :=
  (s.foldl (fun (target, g) range => g.backwardState ⟨range, target⟩) (target, g)).2

/-- Grow backwards by a set that is given by its byte sequences: first a state with one way out for
each sequence, then the state behind the set, then the states that lead there. -/
def growBackwards (sequences : List (List ByteRange)) (e : Extent) : Extent :=
  let target := e.states + 1
  (sequences.foldl (fun g s => extendBack target s g)
    ⟨e.grow 2 (4 * sequences.length), ∅⟩).extent

/-- Grow by a set of characters. -/
def growSet (backwards : Bool) (set : CharSet) (sequences : List (List ByteRange)) (e : Extent) :
    Extent :=
  if set.isAscii then e.grow 2 (8 * set.ranges.length)
  else if backwards then growBackwards sequences e
  else growForwards sequences e

end SelectorGuard.Pattern
