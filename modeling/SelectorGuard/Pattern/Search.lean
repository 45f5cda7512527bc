import SelectorGuard.Pattern.Basic

/-!
# Searching for a pattern

The search follows a set of places through the pattern. A set of places is a natural number whose
bit i stands for place i, so that one step over a character is a bitwise "and" with the places
where such a character stands, and a shift by one. A loop is followed until no new place turns up,
which bounds the work by the length of the text whatever the pattern.
-/

namespace SelectorGuard.Pattern

/-- A pattern against one text: the sets have become masks of places. -/
inductive Walk where
  /-- Stay where one is. -/
  | stay
  /-- Go one place on from the places of a mask. -/
  | step (mask : Nat)
  /-- Stay at the places of a mask. -/
  | keep (mask : Nat)
  /-- One walk, then another. -/
  | seq (first second : Walk)
  /-- Either of two walks. -/
  | alt (left right : Walk)
  /-- `least` rounds, then up to `extra` more. -/
  | loop (body : Walk) (least extra : Nat)

/-- The places before a character of the set. -/
def charMask (set : CharSet) : List Char → Nat
  | [] => 0
  | c :: rest => (set.contains c).toNat + 2 * charMask set rest

/-- The places where a condition holds, given what stands before the first of them. -/
def anchorMask (a : Anchor) : Option Char → List Char → Nat
  | b, [] => (a.holds b none).toNat
  | b, c :: rest => (a.holds b (some c)).toNat + 2 * anchorMask a (some c) rest

/-- Every place of a text of a given length. -/
def allPlaces (length : Nat) : Nat :=
  Nat.pow 2 (length + 1) - 1

/-- A walk after which the same walk reaches nothing more: a loop of one round or more without a
bound below the number of places, and any loop of at most one forced round of such a walk. -/
def Walk.isClosed (places : Nat) : Walk → Bool
  | .loop v least extra => least ≤ 1 && (places ≤ extra || v.isClosed places)
  | _ => false

/-- The rounds beyond the least ones that can matter. Of a walk after which it reaches nothing more
these are none, or one if there is no other. -/
def extraRounds (places : Nat) (v : Walk) (least extra : Nat) : Nat :=
  if v.isClosed places then (if least = 0 then min extra 1 else 0) else extra

/-- Prepare a pattern for one text. A loop without bound needs no more rounds than the text has
places, because each round that matters reaches a new one. -/
def onText (text : List Char) (places : Nat) : Pattern → Walk
  | .empty => .stay
  | .char set => .step (charMask set text)
  | .anchor a => .keep (anchorMask a none text)
  | .seq p q => .seq (onText text places p) (onText text places q)
  | .alt p q => .alt (onText text places p) (onText text places q)
  | .loop p least most _ =>
    let v := onText text places p
    .loop v least (extraRounds places v least ((most.map (· - least)).getD places))
  | .group _ p => onText text places p

/-- Apply a function a number of times, or until it changes nothing. -/
def iterate (f : Nat → Nat) : Nat → Nat → Nat
  | 0, s => s
  | n + 1, s => if f s = s then s else iterate f n (f s)

/-- Add to `seen` what up to a number of rounds reach from `recent`, stopping as soon as a round
reaches nothing new. -/
def spread (f : Nat → Nat) : Nat → Nat → Nat → Nat
  | 0, seen, _ => seen
  | n + 1, seen, recent =>
    let reached := f recent
    let fresh := reached ^^^ (reached &&& seen)
    if fresh = 0 then seen else spread f n (seen ||| fresh) fresh

/-- The places that a walk reaches from a set of places. -/
def Walk.run : Walk → Nat → Nat
  | .stay, s => s
  | .step mask, s => 2 * (s &&& mask)
  | .keep mask, s => s &&& mask
  | .seq v w, s => w.run (v.run s)
  | .alt v w, s => v.run s ||| w.run s
  | .loop v least extra, s =>
    let entered := iterate v.run least s
    spread v.run extra entered entered

/-- Whether a pattern matches some stretch of a text. -/
def occursIn (p : Pattern) (text : List Char) : Bool :=
  (p.onText text (text.length + 1)).run (allPlaces text.length) != 0

/-- Repeating a function that has come to rest changes nothing. -/
theorem iterate_of_fixed {f : Nat → Nat} {s : Nat} (h : f s = s) (n : Nat) :
    iterate f n s = s := by
  cases n with
  | zero => rfl
  | succ n => simp only [iterate, if_pos h]

end SelectorGuard.Pattern
