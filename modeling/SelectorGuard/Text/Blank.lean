/-!
# Blank characters

The blank characters are the 25 code points of the Unicode property White_Space. Control
characters are those of the category Cc, which adds U+007F to U+009F to the ASCII controls.
-/

namespace SelectorGuard.Text

/-- Code point ranges of the property White_Space, in ascending order. -/
def blankRanges : List (Nat × Nat) :=
  [(0x09, 0x0D), (0x20, 0x20), (0x85, 0x85), (0xA0, 0xA0), (0x1680, 0x1680), (0x2000, 0x200A),
    (0x2028, 0x2029), (0x202F, 0x202F), (0x205F, 0x205F), (0x3000, 0x3000)]

/-- A blank character has the property White_Space. -/
def isBlank (c : Char) : Bool :=
  blankRanges.any fun r => r.1 ≤ c.toNat && c.toNat ≤ r.2

/-- A control character has the category Cc. -/
def isControl (c : Char) : Bool :=
  c.toNat < 0x20 || (0x7F ≤ c.toNat && c.toNat < 0xA0)

/-- Leading blanks dropped. -/
def trimStart (cs : List Char) : List Char :=
  cs.dropWhile isBlank

/-- A text is all blank when trimming it leaves nothing. -/
def isAllBlank (cs : List Char) : Bool :=
  cs.all isBlank

end SelectorGuard.Text
