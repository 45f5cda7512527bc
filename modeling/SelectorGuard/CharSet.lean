/-!
# Sets of characters

A set of characters is a list of code point ranges in ascending order, neither overlapping nor
touching. The boolean operations work on the whole code space; complements may be taken within a
smaller one, which is how sets of single bytes are treated.
-/

namespace SelectorGuard

/-- A set of code points. -/
structure CharSet where
  /-- Inclusive ranges in ascending order, with a gap between any two of them. -/
  ranges : List (Nat × Nat)
deriving DecidableEq, Repr, Inhabited

namespace CharSet

/-- The last code point. -/
def lastCodePoint : Nat := 0x10FFFF

/-- Join neighbouring ranges that overlap or touch, given ranges by ascending start. -/
def coalesce : List (Nat × Nat) → List (Nat × Nat)
  | [] => []
  | [r] => [r]
  | r :: s :: rest =>
    if s.1 ≤ r.2 + 1 then coalesce ((r.1, max r.2 s.2) :: rest) else r :: coalesce (s :: rest)
termination_by rs => rs.length

/-- The set covered by ranges in any order. -/
def ofRanges (rs : List (Nat × Nat)) : CharSet :=
  ⟨coalesce (rs.mergeSort fun a b => a.1 ≤ b.1)⟩

/-- The set of one character. -/
def singleton (c : Char) : CharSet :=
  ⟨[(c.toNat, c.toNat)]⟩

/-- The set of the characters from one to another. -/
def between (first last : Char) : CharSet :=
  ⟨[(first.toNat, last.toNat)]⟩

/-- The set without members. -/
def empty : CharSet :=
  ⟨[]⟩

/-- The set of all characters. -/
def all : CharSet :=
  ⟨[(0, lastCodePoint)]⟩

/-- A character belongs to a set when one of the ranges holds its code point. -/
def contains (s : CharSet) (c : Char) : Bool :=
  s.ranges.any fun r => r.1 ≤ c.toNat && c.toNat ≤ r.2

theorem contains_singleton (c d : Char) : (singleton c).contains d = (c == d) := by
  rw [Bool.eq_iff_iff]
  simp only [contains, singleton, List.any_cons, List.any_nil, Bool.or_false, Bool.and_eq_true,
    decide_eq_true_eq, beq_iff_eq]
  constructor
  · intro h
    exact Char.toNat_inj.1 (Nat.le_antisymm h.1 h.2)
  · rintro rfl
    exact ⟨Nat.le_refl _, Nat.le_refl _⟩

/-- All members of either set. -/
def union (s t : CharSet) : CharSet :=
  ofRanges (s.ranges ++ t.ranges)

/-- The gaps between ascending ranges, from a first code point to a last one. -/
def gaps (last : Nat) : Nat → List (Nat × Nat) → List (Nat × Nat)
  | start, [] => if start ≤ last then [(start, last)] else []
  | start, r :: rest =>
    if start < r.1 then (start, r.1 - 1) :: gaps last (r.2 + 1) rest else gaps last (r.2 + 1) rest

/-- All code points up to a last one that are not members. -/
def complementWithin (last : Nat) (s : CharSet) : CharSet :=
  ⟨gaps last 0 s.ranges⟩

/-- All characters that are not members. -/
def complement (s : CharSet) : CharSet :=
  s.complementWithin lastCodePoint

/-- The members of both sets. -/
def inter (s t : CharSet) : CharSet :=
  (s.complement.union t.complement).complement

/-- The members of the first set that are not in the second. -/
def diff (s t : CharSet) : CharSet :=
  s.inter t.complement

/-- The members of exactly one of the sets. -/
def symmDiff (s t : CharSet) : CharSet :=
  (s.union t).diff (s.inter t)

/-- All members lie in the ASCII range. -/
def isAscii (s : CharSet) : Bool :=
  s.ranges.all fun r => r.2 < 0x80

/-- The only member of a set of one code point. -/
def single? (s : CharSet) : Option Nat :=
  match s.ranges with
  | [r] => if r.1 = r.2 then some r.1 else none
  | _ => none

end CharSet

end SelectorGuard
