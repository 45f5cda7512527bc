import SelectorGuard.Pattern.Bracket
import SelectorGuard.Pattern.Size

/-!
# Reading a pattern

The reader goes through the text of a pattern from left to right. Groups nest, so it keeps the
levels that are still open in a stack; each level holds its mode, the alternatives that are
finished, and the parts of the current one. Flags set inside a group end with it, also when they
were set in an earlier alternative. A pattern whose parts nest more than 250 deep is refused, and
so is one whose size exceeds the limit.
-/

namespace SelectorGuard.Pattern

/-- A part of an alternative. -/
inductive Part where
  /-- A pattern, with how deeply its parts nest. -/
  | piece (pattern : Pattern) (depth : Nat)
  /-- Flags, which match the empty stretch and cannot be repeated. -/
  | flags
deriving DecidableEq, Repr

/-- The pattern of a part. -/
def Part.pattern : Part → Pattern
  | piece p _ => p
  | flags => .empty

/-- How deeply a part nests. -/
def Part.depth : Part → Nat
  | piece _ d => d
  | flags => 0

/-- A group that is open, or the whole pattern. -/
structure Level where
  /-- The flags in force. -/
  mode : Mode
  /-- The group remembers its stretch. -/
  capturing : Bool
  /-- Finished alternatives with their depths, the latest first. -/
  branches : List (Pattern × Nat)
  /-- Parts of the current alternative, the latest first. -/
  parts : List Part
deriving DecidableEq, Repr

namespace Level

/-- A level at which nothing has been read. -/
def start (mode : Mode) (capturing : Bool) : Level :=
  ⟨mode, capturing, [], []⟩

/-- Add a part to the current alternative. -/
def add (l : Level) (part : Part) : Level :=
  { l with parts := part :: l.parts }

/-- The current alternative. Two parts or more nest one deeper. -/
def branch (l : Level) : Pattern × Nat :=
  match l.parts with
  | [] => (.empty, 0)
  | [part] => (part.pattern, part.depth)
  | parts =>
    (sequence (parts.reverse.map Part.pattern), (parts.map Part.depth).foldl max 0 + 1)

/-- Finish the current alternative. -/
def split (l : Level) : Level :=
  { l with branches := l.branch :: l.branches, parts := [] }

/-- All alternatives. Two or more nest one deeper. -/
def whole (l : Level) : Pattern × Nat :=
  match l.branches.reverse with
  | [] => l.branch
  | first :: rest =>
    (choice first.1 (rest.map Prod.fst ++ [l.branch.1]),
      ((l.branch :: l.branches).map Prod.snd).foldl max 0 + 1)

/-- The level as a part of the one around it. -/
def close (l : Level) : Part :=
  let (p, depth) := l.whole
  .piece (.group l.capturing p) (depth + 1)

/-- Repeat the latest part. There must be one, and flags cannot be repeated. -/
def repeatLast (l : Level) (least : Nat) (most : Option Nat) (lazily : Bool) : Option Level :=
  match l.parts with
  | .piece p depth :: rest =>
    some { l with parts := .piece (.loop p least most (lazily != l.mode.swapped)) (depth + 1)
                             :: rest }
  | _ => none

end Level

/-- What has been read. -/
structure Progress where
  /-- The innermost open level. -/
  level : Level
  /-- The levels around it, from the inside out. -/
  outer : List Level
  /-- Names of the groups so far. -/
  names : List (List Char)
deriving DecidableEq, Repr

/-- The deepest nesting that is accepted. -/
def depthLimit : Nat := 250

/-- Add a part to the current alternative of the innermost level. -/
def Progress.add (s : Progress) (part : Part) : Progress :=
  { s with level := s.level.add part }

/-- Repeat the latest part, given the bounds and what follows them: perhaps a question mark. -/
def Progress.repeatLast (s : Progress) (least : Nat) (most : Option Nat) (rest : List Char) :
    Option (Progress × List Char) := do
  let (lazily, left) := readLazily rest
  return ({ s with level := ← s.level.repeatLast least most lazily }, left)

/-- Read one part, given its first character and what follows. The first argument bounds the number
of characters that follow. -/
def step (n : Nat) (s : Progress) (c : Char) (rest : List Char) :
    Option (Progress × List Char) :=
  let m := s.level.mode
  match c with
  | '(' => do
    match ← readOpening m rest with
    | (.capture none, left) =>
      return ({ s with level := Level.start m true, outer := s.level :: s.outer }, left)
    | (.capture (some name), left) =>
      if name ∈ s.names then none
      else return (⟨Level.start m true, s.level :: s.outer, name :: s.names⟩, left)
    | (.plain flags, left) =>
      return ({ s with level := Level.start (m.assignAll flags) false,
                       outer := s.level :: s.outer }, left)
    | (.directive flags, left) =>
      return ({ s with level := { s.level with mode := m.assignAll flags }.add .flags }, left)
  | ')' =>
    match s.outer with
    | [] => none
    | parent :: others =>
      some ({ s with level := parent.add s.level.close, outer := others }, rest)
  | '|' => some ({ s with level := s.level.split }, rest)
  | '[' => do
    let (b, left) ← openBracket m rest
    let (operand, left) ← readBracket m (n + 1) b [] left
    return (s.add (.piece (.char operand.set) operand.depth), left)
  | '?' => s.repeatLast 0 (some 1) rest
  | '*' => s.repeatLast 0 none rest
  | '+' => s.repeatLast 1 none rest
  | '{' => do
    let (least, most, left) ← readBounds m rest
    s.repeatLast least most left
  | '.' => do return (s.add (.piece (.char (← m.dotSet)) 0), rest)
  | '^' => some (s.add (.piece (.anchor m.caret) 0), rest)
  | '$' => some (s.add (.piece (.anchor m.dollar) 0), rest)
  | '\\' => do
    let (primitive, left) ← readEscape m rest
    return (s.add (.piece (← m.pattern primitive) 0), left)
  | c => do return (s.add (.piece (← m.pattern (.literal c false)) 0), rest)

/-- Read to the end. The first argument bounds the number of steps, each of which reads at least
one character. -/
def readParts : Nat → Progress → List Char → Option (Pattern × Nat)
  | n, s, cs =>
    match s.level.mode.skip cs with
    | [] => if s.outer.isEmpty then some s.level.whole else none
    | c :: rest =>
      match n with
      | 0 => none
      | n + 1 => do
        let (s, left) ← step n s c rest
        readParts n s left

/-- A reading that succeeds: step by step, up to the end of the text, where no group is open. -/
inductive Reads (r : Pattern × Nat) : Nat → Progress → List Char → Prop
  /-- Nothing is left, and what has been read is the result. -/
  | finish {n : Nat} {s : Progress} {cs : List Char} (finished : s.level.mode.skip cs = [])
      (root : s.outer = []) (whole : s.level.whole = r) : Reads r n s cs
  /-- A step is made, and the reading goes on behind it. -/
  | onward {n : Nat} {s t : Progress} {cs rest left : List Char} {c : Char}
      (start : s.level.mode.skip cs = c :: rest) (moved : step n s c rest = some (t, left))
      (more : Reads r n t left) : Reads r (n + 1) s cs

/-- The reader succeeds step by step. -/
theorem reads_of_readParts {n : Nat} {s : Progress} {cs : List Char} {r : Pattern × Nat}
    (h : readParts n s cs = some r) : Reads r n s cs := by
  fun_induction readParts n s cs with
  | case1 n s cs finished root =>
    exact .finish finished (List.isEmpty_iff.mp root) (Option.some.inj h)
  | case2 => cases h
  | case3 => cases h
  | case4 s cs c rest start n ih =>
    obtain ⟨⟨t, left⟩, moved, h⟩ := Option.bind_eq_some_iff.mp h
    exact .onward start moved (ih t left h)

/-- The pattern that a text spells, if it is well formed and does not nest too deeply. -/
def parse? (cs : List Char) : Option Pattern := do
  let (p, depth) ← readParts cs.length ⟨Level.start {} false, [], []⟩ cs
  if depth ≤ depthLimit then return p else none

/-- The pattern that a text spells, if it also keeps to the limit of size. -/
def read? (cs : List Char) : Option Pattern :=
  (parse? cs).filter fits

/-- What is read is what was parsed. -/
theorem parse?_of_read? {cs : List Char} {p : Pattern} (h : read? cs = some p) :
    parse? cs = some p := by
  simp only [read?, Option.filter_eq_some_iff] at h
  exact h.1

end SelectorGuard.Pattern
