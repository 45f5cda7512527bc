import SelectorGuard.Pattern.Search
import Mathlib.Data.Nat.Bitwise

/-!
# The search finds what a pattern matches

A walk is run on a set of places at once. What it does to single places is a relation, and running
it takes a set along this relation. For the walk that a pattern becomes on a text, the relation is
that the pattern matches from one place to the other. Loops are where the two differ in form: the
search leaves out rounds that reach nothing new. Rounds never go back, so those that stay where they
are can be left out, and there are at most as many others as there are places to go on.
-/

namespace SelectorGuard.Pattern

/-- A number of rounds, one after the other, each of which takes one place to another. -/
inductive Rounds (R : Nat → Nat → Prop) : Nat → Nat → Nat → Prop
  | stop {i : Nat} : Rounds R 0 i i
  | round {n i j k : Nat} : R i j → Rounds R n j k → Rounds R (n + 1) i k

namespace Rounds

variable {R : Nat → Nat → Prop} {m n i j k : Nat}

/-- One round is a round. -/
theorem single (h : R i j) : Rounds R 1 i j :=
  .round h .stop

/-- Rounds can be followed by more. -/
theorem append (first : Rounds R m i j) (second : Rounds R n j k) : Rounds R (n + m) i k := by
  induction first with
  | stop => exact second
  | round step _ ih => exact .round step (ih second)

/-- Rounds can be cut after some of them. -/
theorem cut (h : Rounds R (n + m) i k) : ∃ j, Rounds R m i j ∧ Rounds R n j k := by
  induction m generalizing i with
  | zero => exact ⟨i, .stop, h⟩
  | succ m ih =>
    cases h with
    | round step rest =>
      obtain ⟨j, first, second⟩ := ih rest
      exact ⟨j, .round step first, second⟩

/-- Rounds that do not go back do not go back together. -/
theorem le (forward : ∀ i j, R i j → i ≤ j) (h : Rounds R n i j) : i ≤ j := by
  induction h with
  | stop => exact Nat.le_refl _
  | round step _ ih => exact Nat.le_trans (forward _ _ step) ih

/-- Rounds that stay where they are can be left out. Each of the others goes on by a place. -/
theorem shorten (forward : ∀ i j, R i j → i ≤ j) (h : Rounds R n i j) :
    ∃ m ≤ j - i, Rounds R m i j := by
  induction h with
  | stop => exact ⟨0, Nat.zero_le _, .stop⟩
  | @round n i j k step rest ih =>
    obtain ⟨m, short, rounds⟩ := ih
    have ahead := forward i j step
    have behind := rest.le forward
    rcases Nat.lt_or_eq_of_le ahead with moved | rfl
    · exact ⟨m + 1, by omega, .round step rounds⟩
    · exact ⟨m, short, rounds⟩

/-- Where two rounds can be made one, so can any number of them but none. -/
theorem collapse (trans : ∀ i j l, l ≤ k → R i j → R j l → R i l) (h : Rounds R (n + 1) i k) :
    R i k := by
  induction n generalizing i with
  | zero =>
    cases h with
    | round step rest =>
      cases rest
      exact step
  | succ n ih =>
    cases h with
    | round step rest => exact trans _ _ _ (Nat.le_refl k) step (ih rest)

/-- What one round does not leave is not left by any number of rounds. -/
theorem closed {P : Nat → Prop} (step : ∀ i j, P i → R i j → P j) (start : P i)
    (h : Rounds R n i j) : P j := by
  induction h with
  | stop => exact start
  | round first _ ih => exact ih (step _ _ start first)

/-- Rounds of one relation are rounds of another that it implies on the places up to a bound, which
the relation keeps. -/
theorem imp {S : Nat → Nat → Prop} {bound : Nat} (inside : i ≤ bound)
    (step : ∀ i j, i ≤ bound → R i j → S i j ∧ j ≤ bound) (h : Rounds R n i j) :
    Rounds S n i j ∧ j ≤ bound := by
  induction h with
  | stop => exact ⟨.stop, inside⟩
  | round first _ ih =>
    have taken := step _ _ inside first
    have rest := ih taken.2
    exact ⟨.round taken.1 rest.1, rest.2⟩

end Rounds

/-! ### Sets of places -/

/-- A function takes sets of places along a relation. -/
def Follows (f : Nat → Nat) (R : Nat → Nat → Prop) : Prop :=
  ∀ s j, (f s).testBit j = true ↔ ∃ i, s.testBit i = true ∧ R i j

/-- Repeating a function takes sets along so many rounds. -/
theorem Follows.iterate {f : Nat → Nat} {R : Nat → Nat → Prop} (h : Follows f R) (n : Nat) :
    Follows (iterate f n) (Rounds R n) := by
  induction n with
  | zero =>
    intro s j
    constructor
    · intro hj
      exact ⟨j, hj, .stop⟩
    · rintro ⟨i, hi, ⟨⟩⟩
      exact hi
  | succ n ih =>
    intro s j
    have again : Pattern.iterate f (n + 1) s = Pattern.iterate f n (f s) := by
      rw [Pattern.iterate]
      split
      · next fixed => rw [fixed, iterate_of_fixed fixed]
      · rfl
    rw [again, ih]
    constructor
    · rintro ⟨l, hl, rounds⟩
      obtain ⟨i, hi, step⟩ := (h s l).mp hl
      exact ⟨i, hi, .round step rounds⟩
    · rintro ⟨i, hi, ⟨⟩⟩
      next l step rounds => exact ⟨l, (h s l).mpr ⟨i, hi, step⟩, rounds⟩

/-- Spreading adds what any number of rounds up to the given one reach. Only the recent places are
followed, which is enough because what the others reach in one round has been seen. -/
theorem Follows.spread {f : Nat → Nat} {R : Nat → Nat → Prop} (h : Follows f R) {n : Nat}
    {seen recent : Nat} (sub : ∀ j, recent.testBit j = true → seen.testBit j = true)
    (followed : ∀ i j, seen.testBit i = true → R i j →
      seen.testBit j = true ∨ (f recent).testBit j = true) (j : Nat) :
    (spread f n seen recent).testBit j = true ↔
      ∃ i, seen.testBit i = true ∧ ∃ m ≤ n, Rounds R m i j := by
  induction n generalizing seen recent with
  | zero =>
    constructor
    · intro hj
      exact ⟨j, hj, 0, Nat.le_refl 0, .stop⟩
    · rintro ⟨i, hi, m, hm, rounds⟩
      obtain rfl := Nat.le_zero.mp hm
      cases rounds
      exact hi
  | succ n ih =>
    have fresh_iff : ∀ j, (f recent ^^^ (f recent &&& seen)).testBit j = true ↔
        (f recent).testBit j = true ∧ seen.testBit j = false := by
      intro j
      rw [Nat.testBit_xor, Nat.testBit_and]
      cases (f recent).testBit j <;> cases seen.testBit j <;> decide
    rw [Pattern.spread]
    split
    · next none =>
      -- Nothing new is reached, so the places that were seen are closed under rounds.
      have closed : ∀ i j, seen.testBit i = true → R i j → seen.testBit j = true := by
        intro i j hi step
        rcases followed i j hi step with hj | hj
        · exact hj
        · rw [← Bool.not_eq_false]
          intro new
          have bit := (fresh_iff j).mpr ⟨hj, new⟩
          rw [none, Nat.zero_testBit] at bit
          cases bit
      constructor
      · intro hj
        exact ⟨j, hj, 0, Nat.zero_le _, .stop⟩
      · rintro ⟨i, hi, m, -, rounds⟩
        exact rounds.closed closed hi
    · generalize f recent ^^^ (f recent &&& seen) = fresh at fresh_iff
      have grown : ∀ j, (seen ||| fresh).testBit j = true ↔
          seen.testBit j = true ∨ (f recent).testBit j = true := by
        intro j
        rw [Nat.testBit_or, Bool.or_eq_true, fresh_iff]
        cases seen.testBit j <;> simp
      rw [ih]
      · constructor
        · rintro ⟨i, hi, m, hm, rounds⟩
          rcases (grown i).mp hi with hi | hi
          · exact ⟨i, hi, m, by omega, rounds⟩
          · obtain ⟨l, hl, step⟩ := (h recent i).mp hi
            exact ⟨l, sub l hl, m + 1, by omega, .round step rounds⟩
        · rintro ⟨i, hi, m, hm, rounds⟩
          cases rounds with
          | stop => exact ⟨j, (grown j).mpr (Or.inl hi), 0, Nat.zero_le _, .stop⟩
          | @round t _ l _ step rest =>
            exact ⟨l, (grown l).mpr (followed i l hi step), t, by omega, rest⟩
      · intro j hj
        rw [Nat.testBit_or, hj, Bool.or_true]
      · intro i j hi step
        rcases (grown i).mp hi with old | reached
        · exact Or.inl ((grown j).mpr (followed i j old step))
        · cases hs : seen.testBit i with
          | true => exact Or.inl ((grown j).mpr (followed i j hs step))
          | false => exact Or.inr ((h fresh j).mpr ⟨i, (fresh_iff i).mpr ⟨reached, hs⟩, step⟩)

/-! ### What a walk does to single places -/

namespace Walk

/-- A walk goes from one place to another. -/
def Goes : Walk → Nat → Nat → Prop
  | stay, i, j => i = j
  | step mask, i, j => mask.testBit i = true ∧ j = i + 1
  | keep mask, i, j => mask.testBit i = true ∧ i = j
  | seq v w, i, k => ∃ j, v.Goes i j ∧ w.Goes j k
  | alt v w, i, j => v.Goes i j ∨ w.Goes i j
  | loop v least extra, i, j => ∃ more ≤ extra, Rounds v.Goes (more + least) i j

/-- Running a walk takes a set of places along the way that the walk goes. -/
theorem run_follows (w : Walk) : Follows w.run w.Goes := by
  induction w with
  | stay => intro s j; simp [run, Goes]
  | step mask =>
    intro s j
    cases j with
    | zero => simp [run, Goes]
    | succ j => simp [run, Goes, Nat.testBit_succ, Nat.testBit_and]
  | keep mask => intro s j; simp [run, Goes, Nat.testBit_and]
  | seq v w ihv ihw =>
    intro s k
    rw [run, ihw]
    constructor
    · rintro ⟨j, hj, second⟩
      obtain ⟨i, hi, first⟩ := (ihv s j).mp hj
      exact ⟨i, hi, j, first, second⟩
    · rintro ⟨i, hi, j, first, second⟩
      exact ⟨j, (ihv s j).mpr ⟨i, hi, first⟩, second⟩
  | alt v w ihv ihw =>
    intro s j
    rw [run, Nat.testBit_or, Bool.or_eq_true, ihv, ihw, ← exists_or]
    simp only [Goes, and_or_left]
  | loop v least extra ih =>
    intro s k
    have followed : ∀ i j, (iterate v.run least s).testBit i = true → v.Goes i j →
        (iterate v.run least s).testBit j = true ∨
          (v.run (iterate v.run least s)).testBit j = true :=
      fun i j hi step => Or.inr ((ih _ j).mpr ⟨i, hi, step⟩)
    rw [run, ih.spread (fun _ hj => hj) followed]
    constructor
    · rintro ⟨j, hj, more, few, second⟩
      obtain ⟨i, hi, first⟩ := (ih.iterate least s j).mp hj
      exact ⟨i, hi, more, few, first.append second⟩
    · rintro ⟨i, hi, more, few, rounds⟩
      obtain ⟨j, first, second⟩ := rounds.cut
      exact ⟨j, (ih.iterate least s j).mpr ⟨i, hi, first⟩, more, few, second⟩

/-- A walk never goes back. -/
theorem le_of_goes (w : Walk) : ∀ i j, w.Goes i j → i ≤ j := by
  induction w with
  | stay => rintro i j rfl; exact Nat.le_refl i
  | step mask => rintro i j ⟨-, rfl⟩; exact Nat.le_succ i
  | keep mask => rintro i j ⟨-, rfl⟩; exact Nat.le_refl i
  | seq v w ihv ihw =>
    rintro i k ⟨j, first, second⟩
    exact Nat.le_trans (ihv i j first) (ihw j k second)
  | alt v w ihv ihw => exact fun i j h => h.elim (ihv i j) (ihw i j)
  | loop v least extra ih =>
    rintro i j ⟨more, -, rounds⟩
    exact rounds.le ih

/-- After a walk that is marked as closed the same walk reaches nothing more, among the places
of the text. -/
theorem goes_trans_of_isClosed {places : Nat} {w : Walk} (h : w.isClosed places = true)
    {i j k : Nat} (inside : k < places) (first : w.Goes i j) (second : w.Goes j k) :
    w.Goes i k := by
  induction w generalizing i j k with
  | loop v least extra ih =>
    rw [isClosed, Bool.and_eq_true, Bool.or_eq_true, decide_eq_true_eq, decide_eq_true_eq] at h
    obtain ⟨forced, enough⟩ := h
    obtain ⟨m, hm, before⟩ := first
    obtain ⟨n, hn, behind⟩ := second
    have all := before.append behind
    rcases enough with enough | closed
    · -- The rounds beyond the forced one are as many as places to go on, once shortened.
      obtain ⟨l, start, rest⟩ := Rounds.cut (m := least) (n := n + least + m)
        (by rwa [← Nat.add_assoc] at all)
      obtain ⟨more, short, rounds⟩ := rest.shorten v.le_of_goes
      exact ⟨more, by omega, start.append rounds⟩
    · -- Any number of rounds but none is one round.
      have one {i k n : Nat} (inside : k < places) (rounds : Rounds v.Goes (n + 1) i k) :
          v.Goes i k :=
        rounds.collapse fun _ _ _ hl =>
          ih closed (Nat.lt_of_le_of_lt hl inside)
      obtain rfl | rfl : least = 0 ∨ least = 1 := by omega
      · cases total : n + 0 + (m + 0) with
        | zero =>
          rw [total] at all
          exact ⟨0, Nat.zero_le _, all⟩
        | succ t =>
          rw [total] at all
          exact ⟨1, by omega, .single (one inside all)⟩
      · exact ⟨0, Nat.zero_le _, .single (one inside (n := n + 1 + m) all)⟩
  | _ => cases h

/-- The rounds that are left out of a loop do not matter among the places of the text. -/
theorem goes_loop_extraRounds {places : Nat} {v : Walk} {least extra i j : Nat}
    (inside : j < places) :
    (loop v least (extraRounds places v least extra)).Goes i j ↔ (loop v least extra).Goes i j := by
  unfold extraRounds
  split
  · next closed =>
    have one {i n : Nat} (rounds : Rounds v.Goes (n + 1) i j) : v.Goes i j :=
      rounds.collapse fun _ _ _ hl =>
        goes_trans_of_isClosed closed (Nat.lt_of_le_of_lt hl inside)
    constructor
    · rintro ⟨more, few, rounds⟩
      exact ⟨more, by split at few <;> omega, rounds⟩
    · rintro ⟨more, few, rounds⟩
      cases least with
      | zero =>
        cases more with
        | zero => exact ⟨0, Nat.zero_le _, rounds⟩
        | succ more => exact ⟨1, by simp; omega, .single (one rounds)⟩
      | succ least =>
        -- The last forced round takes over the rounds behind it.
        obtain ⟨l, forced, rest⟩ := Rounds.cut (m := least) (n := more + 1)
          (by rwa [← Nat.add_assoc, Nat.add_right_comm] at rounds)
        refine ⟨0, Nat.zero_le _, ?_⟩
        have last := forced.append (.single (one rest))
        rwa [Nat.zero_add, Nat.add_comm least 1]
  · rfl

end Walk

/-! ### Patterns -/

/-- Every loop of a pattern has at most as many rounds at the least as at the most. -/
def HasBounds : Pattern → Prop
  | .empty => True
  | .char _ => True
  | .anchor _ => True
  | .seq p q => HasBounds p ∧ HasBounds q
  | .alt p q => HasBounds p ∧ HasBounds q
  | .loop p least most _ => (∀ m, most = some m → least ≤ m) ∧ HasBounds p
  | .group _ p => HasBounds p

variable {text : List Char}

/-- The places before a character of a set. -/
theorem testBit_charMask {set : CharSet} {i : Nat} :
    (charMask set text).testBit i = true ↔ ∃ c, text[i]? = some c ∧ set.contains c = true := by
  induction text generalizing i with
  | nil => simp [charMask]
  | cons c rest ih =>
    cases i with
    | zero => cases h : set.contains c <;> simp [charMask, h]
    | succ i =>
      rw [charMask, Nat.add_comm, Nat.testBit_succ]
      have half : (2 * charMask set rest + (set.contains c).toNat) / 2 = charMask set rest := by
        cases set.contains c <;> simp; omega
      rw [half, ih, List.getElem?_cons_succ]

/-- The places where a condition holds, behind a given character. -/
theorem testBit_anchorMask {a : Anchor} {first : Option Char} {i : Nat} :
    (anchorMask a first text).testBit i = true ↔
      i ≤ text.length ∧ a.holds (if i = 0 then first else text[i - 1]?) text[i]? = true := by
  induction text generalizing first i with
  | nil =>
    cases i with
    | zero => cases h : a.holds first none <;> simp [anchorMask, h]
    | succ i => cases h : a.holds first none <;> simp [anchorMask, h, Nat.testBit_succ]
  | cons c rest ih =>
    cases i with
    | zero => cases h : a.holds first (some c) <;> simp [anchorMask, h]
    | succ i =>
      rw [anchorMask, Nat.add_comm, Nat.testBit_succ]
      have half : (2 * anchorMask a (some c) rest + (a.holds first (some c)).toNat) / 2 =
          anchorMask a (some c) rest := by
        cases a.holds first (some c) <;> simp; omega
      rw [half, ih]
      cases i <;> simp

/-- A pattern matches from a place of the text to a place of the text that is not before it. -/
theorem Matches.bounds {p : Pattern} {i j : Nat} (h : Matches text p i j) :
    i ≤ j ∧ j ≤ text.length := by
  induction h with
  | empty inside => exact ⟨Nat.le_refl _, inside⟩
  | char read _ =>
    have inside := (List.getElem?_eq_some_iff.mp read).1
    exact ⟨Nat.le_succ _, inside⟩
  | anchor inside _ => exact ⟨Nat.le_refl _, inside⟩
  | seq _ _ first second => exact ⟨Nat.le_trans first.1 second.1, second.2⟩
  | left _ ih => exact ih
  | right _ ih => exact ih
  | stop inside => exact ⟨Nat.le_refl _, inside⟩
  | round _ _ _ first rest => exact ⟨Nat.le_trans first.1 rest.1, rest.2⟩
  | group _ ih => exact ih

/-- A loop matches what a number of rounds within its bounds matches. -/
theorem matches_loop_iff {p : Pattern} {least : Nat} {most : Option Nat} {lazily : Bool}
    {i j : Nat} (inside : i ≤ text.length) :
    Matches text (.loop p least most lazily) i j ↔
      ∃ n, least ≤ n ∧ (∀ m, most = some m → n ≤ m) ∧ Rounds (Matches text p) n i j := by
  constructor
  · intro h
    generalize eq : Pattern.loop p least most lazily = q at h
    induction h generalizing least most with
    | stop _ =>
      cases eq
      exact ⟨0, Nat.le_refl 0, fun _ _ => Nat.zero_le _, .stop⟩
    | round more first rest _ ih =>
      cases eq
      obtain ⟨n, enough, few, rounds⟩ := ih first.bounds.2 rfl
      refine ⟨n + 1, by omega, ?_, .round first rounds⟩
      rintro m rfl
      have positive : m ≠ 0 := fun zero => more (congrArg some zero)
      have bound := few (m - 1) rfl
      omega
    | _ => cases eq
  · rintro ⟨n, enough, few, rounds⟩
    induction n generalizing least most i with
    | zero =>
      obtain rfl := Nat.le_zero.mp enough
      cases rounds
      exact .stop inside
    | succ n ih =>
      cases rounds with
      | round first rest =>
        refine .round ?_ first (ih first.bounds.2 (by omega) ?_ rest)
        · rintro rfl
          have none := few 0 rfl
          omega
        · intro m eq
          obtain ⟨l, rfl, rfl⟩ := Option.map_eq_some_iff.mp eq
          have bound := few l rfl
          omega

/-- From a place of the text, the walk that a pattern becomes goes just where the pattern
matches. -/
theorem goes_onText_iff {p : Pattern} (bounded : HasBounds p) {i j : Nat}
    (inside : i ≤ text.length) :
    (p.onText text (text.length + 1)).Goes i j ↔ Matches text p i j := by
  induction p generalizing i j with
  | empty =>
    constructor
    · rintro rfl
      exact .empty inside
    · rintro ⟨⟩
      rfl
  | char set =>
    rw [onText, Walk.Goes, testBit_charMask]
    constructor
    · rintro ⟨⟨c, read, member⟩, rfl⟩
      exact .char read member
    · rintro ⟨⟩
      next c member read => exact ⟨⟨c, read, member⟩, rfl⟩
  | anchor a =>
    rw [onText, Walk.Goes, testBit_anchorMask]
    constructor
    · rintro ⟨⟨_, holds⟩, rfl⟩
      exact .anchor inside holds
    · rintro ⟨⟩
      next holds => exact ⟨⟨inside, holds⟩, rfl⟩
  | seq p q ihp ihq =>
    rw [onText, Walk.Goes]
    constructor
    · rintro ⟨k, first, second⟩
      have matched := (ihp bounded.1 inside).mp first
      exact .seq matched ((ihq bounded.2 matched.bounds.2).mp second)
    · rintro ⟨⟩
      next first second =>
        exact ⟨_, (ihp bounded.1 inside).mpr first,
          (ihq bounded.2 first.bounds.2).mpr second⟩
  | alt p q ihp ihq =>
    rw [onText, Walk.Goes, ihp bounded.1 inside, ihq bounded.2 inside]
    constructor
    · exact fun h => h.elim .left .right
    · rintro ⟨⟩
      · next h => exact Or.inl h
      · next h => exact Or.inr h
  | group _ p ih =>
    rw [onText, ih bounded inside]
    constructor
    · exact .group
    · rintro ⟨⟩
      next h => exact h
  | loop p least most lazily ih =>
    have body := @ih bounded.2
    have goes_matches {n i j : Nat} (inside : i ≤ text.length)
        (h : Rounds (p.onText text (text.length + 1)).Goes n i j) :
        Rounds (Matches text p) n i j ∧ j ≤ text.length :=
      h.imp inside fun i j hi step => by
        have matched := (body hi).mp step
        exact ⟨matched, matched.bounds.2⟩
    have matches_goes {n i j : Nat} (inside : i ≤ text.length)
        (h : Rounds (Matches text p) n i j) :
        Rounds (p.onText text (text.length + 1)).Goes n i j ∧ j ≤ text.length :=
      h.imp inside fun i j hi step => ⟨(body hi).mpr step, step.bounds.2⟩
    rw [onText, matches_loop_iff inside]
    constructor
    · intro walked
      have end_inside : j < text.length + 1 := by
        obtain ⟨_, -, rounds⟩ := walked
        exact Nat.lt_succ_of_le (goes_matches inside rounds).2
      obtain ⟨more, few, rounds⟩ := (Walk.goes_loop_extraRounds end_inside).mp walked
      refine ⟨more + least, Nat.le_add_left _ _, ?_, (goes_matches inside rounds).1⟩
      rintro m rfl
      have least_le := bounded.1 m rfl
      simp only [Option.map_some, Option.getD_some] at few
      omega
    · rintro ⟨n, enough, few, rounds⟩
      obtain ⟨walked, end_inside⟩ := matches_goes inside rounds
      rw [Walk.goes_loop_extraRounds (Nat.lt_succ_of_le end_inside)]
      cases most with
      | some m =>
        have bound := few m rfl
        refine ⟨n - least, ?_, ?_⟩
        · simp only [Option.map_some, Option.getD_some]
          omega
        · rwa [Nat.sub_add_cancel enough]
      | none =>
        -- Without a bound the rounds beyond the forced ones are shortened to fit the text.
        rw [← Nat.sub_add_cancel enough] at walked
        obtain ⟨k, forced, rest⟩ := walked.cut
        obtain ⟨more, short, kept⟩ := rest.shorten (Walk.le_of_goes _)
        exact ⟨more, by simp only [Option.map_none, Option.getD_none]; omega, forced.append kept⟩

/-- The search finds out whether a pattern matches some stretch of a text. -/
theorem occursIn_iff {p : Pattern} (bounded : HasBounds p) (text : List Char) :
    p.occursIn text = true ↔ p.Occurs text := by
  have places {i : Nat} : (allPlaces text.length).testBit i = true ↔ i ≤ text.length := by
    rw [allPlaces, Nat.pow_eq, Nat.testBit_two_pow_sub_one, decide_eq_true_eq, Nat.lt_succ_iff]
  have follows := Walk.run_follows (p.onText text (text.length + 1)) (allPlaces text.length)
  rw [occursIn, bne_iff_ne, Occurs]
  constructor
  · intro found
    obtain ⟨j, hj⟩ := Nat.exists_testBit_of_ne_zero found
    obtain ⟨i, hi, walked⟩ := (follows j).mp hj
    exact ⟨i, j, (goes_onText_iff bounded (places.mp hi)).mp walked⟩
  · rintro ⟨i, j, matched⟩ none
    have inside := Nat.le_trans matched.bounds.1 matched.bounds.2
    have hj := (follows j).mpr ⟨i, places.mpr inside, (goes_onText_iff bounded inside).mpr matched⟩
    rw [none, Nat.zero_testBit] at hj
    cases hj

end SelectorGuard.Pattern
