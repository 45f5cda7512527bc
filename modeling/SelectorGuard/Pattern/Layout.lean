import SelectorGuard.Pattern.Basic
import SelectorGuard.Pattern.Utf8

/-!
# Layouts

Before a pattern becomes a machine it is laid out in a simpler form. Neighbouring characters join
to literals, and a sequence within a sequence dissolves. Alternatives within alternatives dissolve
too; if all of them are single characters, or all of them sets, they become one set, and if all of
them are sequences that begin alike, the beginning is shared. A loop of no rounds and a loop of one
round vanish, and a body that takes no room in the text goes round at most once.

A sequence is taken apart by `Layout.parts` and put together by `Layout.ofParts`, which leaves the
other forms as they are; `Layout.append` and `Layout.choose` keep a layout in this simpler form.
-/

namespace SelectorGuard.Pattern

/-- A pattern as it is laid out for a machine. -/
inductive Layout where
  /-- Takes nothing and asks for nothing. -/
  | empty
  /-- A condition on the place. -/
  | anchor (condition : Anchor)
  /-- Code points one after the other. -/
  | literal (chars : List Nat)
  /-- One character of a set, which is also given by its byte sequences. -/
  | set (members : CharSet) (sequences : List (List ByteRange))
  /-- Rounds of a body. -/
  | loop (body : Layout) (least : Nat) (most : Option Nat) (lazily : Bool)
  /-- A body whose stretch is remembered. -/
  | capture (body : Layout)
  /-- Two parts or more, one after the other. -/
  | concat (parts : List Layout)
  /-- Two alternatives or more. -/
  | choice (branches : List Layout)
deriving Inhabited

namespace Layout

mutual

/-- Whether two layouts are the same. Two remembered groups never are, because each of them is
remembered on its own. -/
def same : Layout → Layout → Bool
  | empty, empty => true
  | anchor a, anchor b => a == b
  | literal s, literal t => s == t
  | set s _, set t _ => s == t
  | loop p least most lazily, loop q least' most' lazily' =>
    same p q && least == least' && most == most' && lazily == lazily'
  | concat ps, concat qs => areSame ps qs
  | choice ps, choice qs => areSame ps qs
  | _, _ => false

/-- Whether two lists of layouts are the same. -/
def areSame : List Layout → List Layout → Bool
  | [], [] => true
  | p :: ps, q :: qs => same p q && areSame ps qs
  | _, _ => false

end

mutual

/-- Matches nothing but empty stretches. -/
def isWidthless : Layout → Bool
  | empty => true
  | anchor _ => true
  | literal _ => false
  | set _ _ => false
  | loop body _ most _ => isWidthless body && most.isSome
  | capture body => isWidthless body
  | concat ps => areWidthless ps
  | choice ps => areWidthless ps

/-- Matches nothing but empty stretches, each of a list. -/
def areWidthless : List Layout → Bool
  | [] => true
  | p :: ps => isWidthless p && areWidthless ps

end

mutual

/-- Whether every match takes at least one character; unknown where a set without members makes
part of the layout impossible. -/
def consumes? : Layout → Option Bool
  | empty => some false
  | anchor _ => some false
  | literal _ => some true
  | set _ sequences => if sequences.isEmpty then none else some true
  | loop body least _ _ => (consumes? body).map (· && least != 0)
  | capture body => consumes? body
  | concat ps => anyConsumes? ps
  | choice ps => allConsume? ps

/-- Whether one of several parts in a row takes a character. -/
def anyConsumes? : List Layout → Option Bool
  | [] => some false
  | p :: ps => do return (← consumes? p) || (← anyConsumes? ps)

/-- Whether each of several alternatives takes a character. -/
def allConsume? : List Layout → Option Bool
  | [] => some true
  | p :: ps => do return (← consumes? p) && (← allConsume? ps)

end

mutual

/-- Whether every match is known to begin with a condition. -/
def startsWith (a : Anchor) : Layout → Bool
  | anchor b => a == b
  | loop body least _ _ => least != 0 && startsWith a body
  | capture body => startsWith a body
  | concat ps => firstStartsWith a ps
  | choice ps => allStartWith a ps
  | _ => false

/-- Whether parts in a row begin with a condition, the first of them or one behind widthless ones
only. -/
def firstStartsWith (a : Anchor) : List Layout → Bool
  | [] => false
  | p :: ps => startsWith a p || (isWidthless p && firstStartsWith a ps)

/-- Whether each of several alternatives begins with a condition. -/
def allStartWith (a : Anchor) : List Layout → Bool
  | [] => true
  | p :: ps => startsWith a p && allStartWith a ps

end

mutual

/-- Whether every match is known to end with a condition. -/
def endsWith (a : Anchor) : Layout → Bool
  | anchor b => a == b
  | loop body least _ _ => least != 0 && endsWith a body
  | capture body => endsWith a body
  | concat ps => lastEndsWith a ps
  | choice ps => allEndWith a ps
  | _ => false

/-- Whether parts in a row end with a condition, the last of them or one before widthless ones
only. -/
def lastEndsWith (a : Anchor) : List Layout → Bool
  | [] => false
  | p :: ps => lastEndsWith a ps || (areWidthless ps && endsWith a p)

/-- Whether each of several alternatives ends with a condition. -/
def allEndWith (a : Anchor) : List Layout → Bool
  | [] => true
  | p :: ps => endsWith a p && allEndWith a ps

end

/-- The layout of a set. One member alone is a literal. -/
def ofSet (s : CharSet) : Layout :=
  let s := s.withoutSurrogates
  match s.single? with
  | some n => literal [n]
  | none => set s (byteSequences s)

/-- The layout that matches nothing. -/
def nothing : Layout :=
  set CharSet.empty []

/-- The parts of a sequence; any other layout is its own only part, and the empty one has none. -/
def parts : Layout → List Layout
  | empty => []
  | concat ps => ps
  | l => [l]

/-- The layout of parts in a row. -/
def ofParts : List Layout → Layout
  | [] => empty
  | [l] => l
  | ps => concat ps

/-- Put a part in front of others, joining two literals. -/
def glue : Layout → List Layout → List Layout
  | literal s, literal t :: rest => literal (s ++ t) :: rest
  | l, rest => l :: rest

/-- One layout, then another. -/
def append (l k : Layout) : Layout :=
  ofParts (l.parts.foldr glue k.parts)

/-- Layouts one after the other. -/
def sequence (ls : List Layout) : Layout :=
  ls.foldr append empty

/-- The alternatives of a layout; any layout without alternatives is its own only one. -/
def branches : Layout → List Layout
  | choice ps => ps
  | l => [l]

/-- The character that a literal of length one spells. -/
def single? : Layout → Option Nat
  | literal [n] => some n
  | _ => none

/-- The code points of a literal. -/
def chars? : Layout → Option (List Nat)
  | literal s => some s
  | _ => none

/-- The members of a set. -/
def members? : Layout → Option CharSet
  | set s _ => some s
  | _ => none

/-- How many parts two sequences share at their beginnings. -/
def sharedLength : List Layout → List Layout → Nat
  | p :: ps, q :: qs => if same p q then sharedLength ps qs + 1 else 0
  | _, _ => 0

/-- How many parts all of several layouts share at their beginnings. Only sequences of two parts or
more count as such. -/
def commonLength : List Layout → Nat
  | concat ps :: rest =>
    rest.foldl (fun n l => match l with
      | concat qs => min n (sharedLength ps qs)
      | _ => 0) ps.length
  | _ => 0

/-- The layout of alternatives. What remains behind a common beginning is laid out in the same way;
the first argument bounds how often that happens. -/
def chooseWithin : Nat → List Layout → Layout
  | fuel, ls =>
    match ls.flatMap branches with
    | [] => nothing
    | [l] => l
    | ls =>
      match ls.mapM single? with
      | some chars => ofSet (CharSet.ofRanges (chars.map fun n => (n, n)))
      | none =>
        match ls.mapM members? with
        | some sets => ofSet (CharSet.ofRanges (sets.flatMap CharSet.ranges))
        | none =>
          let shared := commonLength ls
          match fuel with
          | 0 => choice ls
          | fuel + 1 =>
            if shared = 0 then choice ls
            else
              let remainders := ls.map fun l => ofParts (l.parts.drop shared)
              sequence (((ls.headD empty).parts.take shared) ++ [chooseWithin fuel remainders])

/-- The layout of alternatives; one alone is laid out already. A beginning is shared at most once
for each of its parts. -/
def choose (ls : List Layout) : Layout :=
  match ls with
  | [l] => l
  | ls => chooseWithin ((ls.map fun l => l.parts.length).foldl max 0) ls

/-- The layout of a loop. -/
def looped (body : Layout) (least : Nat) (most : Option Nat) (lazily : Bool) : Layout :=
  let (least, most) :=
    if isWidthless body then (min least 1, some ((most.map (min 1)).getD 1)) else (least, most)
  if most == some 0 then empty
  else if least = 1 && most == some 1 then body
  else loop body least most lazily

end Layout

/-- The layouts of the alternatives of a pattern, in order. A group is one alternative, whatever
it holds. -/
def branches : Pattern → List Layout
  | .alt p q => Layout.choose (branches p) :: branches q
  | .empty => [.empty]
  | .char set => [Layout.ofSet set]
  | .anchor a => [.anchor a]
  | .seq p q => [(Layout.choose (branches p)).append (Layout.choose (branches q))]
  | .loop p least most lazily => [Layout.looped (Layout.choose (branches p)) least most lazily]
  | .group true p => [.capture (Layout.choose (branches p))]
  | .group false p => [Layout.choose (branches p)]

/-- The layout of a pattern. -/
def layout (p : Pattern) : Layout :=
  Layout.choose p.branches

end SelectorGuard.Pattern
