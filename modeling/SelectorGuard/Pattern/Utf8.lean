import SelectorGuard.CharSet

/-!
# Sets of characters as byte sequences

The machines that run patterns read the UTF-8 form of a text byte by byte. A range of code points
is cut where the number of bytes changes, around the surrogates, and wherever a byte before the
last does not run through all its values. In each of the parts every byte runs through a range of
its own, so a set of characters becomes a list of sequences of byte ranges.
-/

namespace SelectorGuard

namespace CharSet

/-- The ranges of code points that are characters, by the number of their UTF-8 bytes and around
the surrogates. -/
def lengthRanges : List (Nat × Nat) :=
  [(0, 0x7F), (0x80, 0x7FF), (0x800, 0xD7FF), (0xE000, 0xFFFF), (0x10000, 0x10FFFF)]

/-- The part of a range that lies within another, if there is any. -/
def clip (r within : Nat × Nat) : Option (Nat × Nat) :=
  if max r.1 within.1 ≤ min r.2 within.2 then some (max r.1 within.1, min r.2 within.2) else none

/-- The members of a set that are not surrogates. -/
def withoutSurrogates (s : CharSet) : CharSet :=
  ⟨s.ranges.flatMap fun r => [(0, 0xD7FF), (0xE000, lastCodePoint)].filterMap (clip r)⟩

end CharSet

namespace Pattern

/-- The UTF-8 bytes of a code point, by the usual four lengths. -/
def utf8 (n : Nat) : List Nat :=
  if n < 0x80 then [n]
  else if n < 0x800 then [0xC0 + n / 64, 0x80 + n % 64]
  else if n < 0x10000 then [0xE0 + n / 4096, 0x80 + n / 64 % 64, 0x80 + n % 64]
  else [0xF0 + n / 262144, 0x80 + n / 4096 % 64, 0x80 + n / 64 % 64, 0x80 + n % 64]

/-- A range of bytes, both ends included. -/
abbrev ByteRange := Nat × Nat

/-- Cut a range of code points that share the bytes before the last `level` ones, so that in each
part every byte runs through a range of its own. -/
def cutByBytes : Nat → Nat → Nat → List (Nat × Nat)
  | 0, lo, hi => [(lo, hi)]
  | level + 1, lo, hi =>
    let block := Nat.pow 64 (level + 1)
    if lo / block = hi / block then cutByBytes level lo hi
    else
      let first := if lo % block = 0 then lo else (lo / block + 1) * block
      let last := if (hi + 1) % block = 0 then hi + 1 else hi / block * block
      (if lo < first then cutByBytes level lo (first - 1) else []) ++
        (if first < last then [(first, last - 1)] else []) ++
        (if last ≤ hi then cutByBytes level last hi else [])

/-- The sequences of byte ranges that make up the UTF-8 form of a set, in the order of the code
points. -/
def byteSequences (set : CharSet) : List (List ByteRange) :=
  set.ranges.flatMap fun r => (CharSet.lengthRanges.filterMap (CharSet.clip r)).flatMap fun part =>
    (cutByBytes ((utf8 part.1).length - 1) part.1 part.2).map fun s =>
      (utf8 s.1).zip (utf8 s.2)

end Pattern

end SelectorGuard
