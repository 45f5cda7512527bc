import SelectorGuard.Proofs.Decimal.Numeral
import SelectorGuard.Proofs.Traversal
import SelectorGuard.Query.Render
import Mathlib.Algebra.GroupWithZero.Nat

/-!
# Duration texts denote durations

The text of a duration counts units, the largest first and each at most once, and what is counted
adds up to the whole milliseconds. Years, weeks and days are no multiples of each other, so the
largest counts are those that fit below the next larger unit. A run of digits ends where letters
begin and the other way round, so that a text falls apart in one way into counts and units, although
the minute is spelled with the first letter of the millisecond.
-/

namespace SelectorGuard

namespace Duration

/-- The milliseconds of a unit. A year has 365 days. -/
def unitMillis : String → Nat
  | "y" => 365 * 86400000
  | "w" => 7 * 86400000
  | "d" => 86400000
  | "h" => 3600000
  | "m" => 60000
  | "s" => 1000
  | "ms" => 1
  | _ => 0

/-- How many of a unit go in below the next larger one. There may be any number of years. -/
def most? : String → Option Nat
  | "w" => some 52
  | "d" => some 6
  | "h" => some 23
  | "m" | "s" => some 59
  | "ms" => some 999
  | _ => none

/-- Counts of units that a number of milliseconds is written as. -/
structure Counts (ms : Nat) (cs : List (Nat × String)) : Prop where
  /-- Something is counted. -/
  ne_nil : cs ≠ []
  /-- Nothing is counted zero times. -/
  positive : ∀ c ∈ cs, 0 < c.1
  /-- The units descend, and none occurs twice. -/
  descending : (cs.map Prod.snd).Sublist ["y", "w", "d", "h", "m", "s", "ms"]
  /-- No count reaches the next larger unit. -/
  bounded : ∀ c ∈ cs, ∀ most ∈ most? c.2, c.1 ≤ most
  /-- All counts together are the number. -/
  total : (cs.map fun c => c.1 * unitMillis c.2).sum = ms

/-- The spelling of counts: each in decimal with its unit behind it. -/
def spelling (cs : List (Nat × String)) : List Char :=
  cs.flatMap fun c => Nat.toDigits 10 c.1 ++ c.2.toList

/-! ### What a number is split into -/

variable {ms limit : Nat} {units : List (String × Nat)}

/-- Units are split off in their order. -/
theorem split_sublist : ((split ms units).map Prod.snd).Sublist (units.map Prod.fst) := by
  induction units generalizing ms with
  | nil => exact .slnil
  | cons unit rest ih =>
    rw [split]
    split
    · exact ih.cons_cons unit.1
    · exact ih.cons unit.1

/-- A unit that is split off goes in at least once. -/
theorem pos_of_mem_split (sizes : ∀ u ∈ units, 0 < u.2) {c : Nat × String}
    (h : c ∈ split ms units) : 0 < c.1 := by
  induction units generalizing ms with
  | nil => cases h
  | cons unit rest ih =>
    have others := fun u hu => sizes u (List.mem_cons_of_mem unit hu)
    rw [split] at h
    split at h
    · next fits =>
      rcases List.mem_cons.mp h with rfl | h
      · exact Nat.div_pos fits (sizes unit List.mem_cons_self)
      · exact ih others h
    · exact ih others h

/-- One more than the largest count of each unit, if it has one, covers the next larger unit. -/
def Covers : Nat → List (String × Nat) → Prop
  | _, [] => True
  | limit, (unit, size) :: rest =>
    (∀ most ∈ most? unit, limit ≤ size * (most + 1)) ∧ Covers size rest

/-- Below the size of a larger unit, no count is more than the largest one. -/
theorem bounded_of_mem_split (sizes : ∀ u ∈ units, 0 < u.2) (below : ms < limit)
    (covers : Covers limit units) {c : Nat × String} (h : c ∈ split ms units) :
    ∀ most ∈ most? c.2, c.1 ≤ most := by
  induction units generalizing ms limit with
  | nil => cases h
  | cons unit rest ih =>
    obtain ⟨cover, covers⟩ := covers
    have others := fun u hu => sizes u (List.mem_cons_of_mem unit hu)
    rw [split] at h
    split at h
    · rcases List.mem_cons.mp h with rfl | h
      · intro most given
        have count : ms / unit.2 < most + 1 :=
          Nat.div_lt_of_lt_mul (Nat.lt_of_lt_of_le below (cover most given))
        exact Nat.le_of_lt_succ count
      · exact ih others (Nat.mod_lt ms (sizes unit List.mem_cons_self)) covers h
    · next small => exact ih others (Nat.lt_of_not_le small) covers h

/-- What is counted and what is left add up to the number. What is left is reduced by one unit after
the other. -/
theorem sum_split_add (sizes : ∀ u ∈ units, unitMillis u.1 = u.2) :
    ((split ms units).map fun c => c.1 * unitMillis c.2).sum +
      units.foldl (fun left u => left % u.2) ms = ms := by
  induction units generalizing ms with
  | nil => exact Nat.zero_add ms
  | cons unit rest ih =>
    have size := sizes unit List.mem_cons_self
    have others := fun u hu => sizes u (List.mem_cons_of_mem unit hu)
    rw [split, List.foldl_cons]
    split
    · rw [List.map_cons, List.sum_cons, Nat.add_assoc, ih others, size]
      exact Nat.div_add_mod' ms unit.2
    · next small =>
      rw [Nat.mod_eq_of_lt (Nat.lt_of_not_le small)]
      exact ih others

/-- The components of a duration of at least a millisecond count its milliseconds. -/
theorem counts_components {d : Duration} (h : 0 < d.millis) : Counts d.millis d.components := by
  have sizes : ∀ u ∈ Duration.units, unitMillis u.1 = u.2 ∧ 0 < u.2 := by decide
  have positive := fun u hu => (sizes u hu).2
  have covers (limit : Nat) : Covers limit Duration.units := by
    simp [Covers, Duration.units, most?]
  have total : (d.components.map fun c => c.1 * unitMillis c.2).sum = d.millis := by
    have sum := @sum_split_add d.millis Duration.units fun u hu => (sizes u hu).1
    -- the last unit is a millisecond, so nothing is left
    have left : Duration.units.foldl (fun left u => left % u.2) d.millis = 0 := Nat.mod_one _
    rwa [left, Nat.add_zero] at sum
  refine ⟨?_, fun c hc => pos_of_mem_split positive hc, split_sublist, fun c hc => ?_, total⟩
  · intro none
    rw [none] at total
    exact absurd total (Nat.ne_of_lt h)
  · exact bounded_of_mem_split positive (Nat.lt_succ_self d.millis) (covers _) hc

/-! ### The counts in a text -/

/-- Letters of a unit, of which there is at least one. -/
def IsUnit (unit : String) : Prop :=
  unit.toList ≠ [] ∧ unit.toList.all (fun c => !c.isDigit) = true

instance : DecidablePred IsUnit := fun _ =>
  inferInstanceAs (Decidable (_ ∧ _))

/-- The spelling of the first count, and what is behind it. -/
theorem spelling_cons (c : Nat × String) (cs : List (Nat × String)) :
    spelling (c :: cs) = Nat.toDigits 10 c.1 ++ (c.2.toList ++ spelling cs) := by
  rw [spelling, List.flatMap_cons, List.append_assoc]
  rfl

/-- A spelling in which something is counted is not empty. -/
theorem spelling_cons_ne_nil (c : Nat × String) (cs : List (Nat × String)) :
    spelling (c :: cs) ≠ [] := by
  rw [spelling_cons]
  exact List.append_ne_nil_of_left_ne_nil Nat.toDigits_ne_nil _

/-- A spelling does not start with a letter. -/
theorem takeWhile_spelling (cs : List (Nat × String)) :
    (spelling cs).takeWhile (fun c => !c.isDigit) = [] := by
  cases cs with
  | nil => rfl
  | cons c rest =>
    obtain ⟨digit, digits, start⟩ := List.exists_cons_of_ne_nil
      (Nat.toDigits_ne_nil : Nat.toDigits 10 c.1 ≠ [])
    have first : digit.isDigit = true := Nat.isDigit_of_mem_toDigits (by decide) (by decide)
      (start ▸ List.mem_cons_self : digit ∈ Nat.toDigits 10 c.1)
    rw [spelling_cons, start, List.cons_append]
    exact List.takeWhile_cons_of_neg (by simp [first])

/-- The letters of a unit do not start with a digit, whatever comes behind them. -/
theorem takeWhile_unit {unit : String} (h : IsUnit unit) (rest : List Char) :
    (unit.toList ++ rest).takeWhile Char.isDigit = [] := by
  obtain ⟨letter, letters, start⟩ := List.exists_cons_of_ne_nil h.1
  have first := List.all_eq_true.mp h.2 letter (start ▸ List.mem_cons_self)
  rw [start, List.cons_append]
  exact List.takeWhile_cons_of_neg (by simpa using first)

/-- A text that spells counts of units determines them. -/
theorem spelling_inj {cs ds : List (Nat × String)} (hc : ∀ c ∈ cs, IsUnit c.2)
    (hd : ∀ d ∈ ds, IsUnit d.2) (h : spelling cs = spelling ds) : cs = ds := by
  induction cs generalizing ds with
  | nil =>
    cases ds with
    | nil => rfl
    | cons d ds => exact absurd h.symm (spelling_cons_ne_nil d ds)
  | cons c cs ih =>
    cases ds with
    | nil => exact absurd h (spelling_cons_ne_nil c cs)
    | cons d ds =>
      obtain ⟨unit, hc⟩ := List.forall_mem_cons.mp hc
      obtain ⟨other, hd⟩ := List.forall_mem_cons.mp hd
      rw [spelling_cons, spelling_cons] at h
      have counted (n : Nat) : ∀ digit ∈ Nat.toDigits 10 n, digit.isDigit = true :=
        fun _ => Nat.isDigit_of_mem_toDigits (by decide) (by decide)
      -- first the run of digits ends, then the run of letters
      obtain ⟨digits, h⟩ := run_append_inj (counted c.1) (counted d.1) (takeWhile_unit unit _)
        (takeWhile_unit other _) h
      obtain ⟨letters, h⟩ := run_append_inj (List.all_eq_true.mp unit.2)
        (List.all_eq_true.mp other.2) (takeWhile_spelling cs) (takeWhile_spelling ds) h
      have counts : c.1 = d.1 := by
        rw [← Numeral.natOf_toDigits c.1, digits, Numeral.natOf_toDigits]
      rw [Prod.ext counts (String.toList_inj.mp letters), ih hc hd h]

/-- The units of counts have letters. -/
theorem Counts.isUnit {cs : List (Nat × String)} (h : Counts ms cs) : ∀ c ∈ cs, IsUnit c.2 := by
  have all : ∀ unit ∈ ["y", "w", "d", "h", "m", "s", "ms"], IsUnit unit := by decide
  exact fun c hc => all c.2 (h.descending.subset (List.mem_map_of_mem hc))

/-- Counts of one number are not spelled as those of another one. -/
theorem Counts.eq_of_spelling_eq {other : Nat} {cs ds : List (Nat × String)} (hc : Counts ms cs)
    (hd : Counts other ds) (h : spelling cs = spelling ds) : ms = other := by
  have same := spelling_inj hc.isUnit hd.isUnit h
  rw [← hc.total, same, hd.total]

/-- Nothing is counted as no seconds. -/
theorem Counts.spelling_ne_zero {cs : List (Nat × String)} (h : Counts ms cs) :
    spelling cs ≠ ['0', 's'] := by
  intro zero
  have same : cs = [(0, "s")] := spelling_inj h.isUnit (by decide) zero
  exact absurd (h.positive (0, "s") (same ▸ List.mem_cons_self)) (by decide)

/-! ### The text of a duration -/

/-- The characters of a duration: no seconds, or counts of its whole milliseconds. -/
theorem chars_cases (d : Duration) :
    (d.millis = 0 ∧ d.chars = ['0', 's']) ∨
      (0 < d.millis ∧ ∃ cs, Counts d.millis cs ∧ d.chars = spelling cs) := by
  rcases Nat.eq_zero_or_pos d.millis with zero | pos
  · exact .inl ⟨zero, if_pos zero⟩
  · exact .inr ⟨pos, d.components, counts_components pos, if_neg (Nat.ne_of_gt pos)⟩

/-- Durations with the same characters have the same whole milliseconds. -/
theorem millis_eq_of_chars_eq {d d' : Duration} (h : d.chars = d'.chars) : d.millis = d'.millis := by
  rcases chars_cases d with ⟨zero, text⟩ | ⟨-, cs, counts, text⟩ <;>
    rcases chars_cases d' with ⟨zero', text'⟩ | ⟨-, cs', counts', text'⟩ <;> rw [text, text'] at h
  · rw [zero, zero']
  · exact absurd h.symm counts'.spelling_ne_zero
  · exact absurd h counts.spelling_ne_zero
  · exact counts.eq_of_spelling_eq counts' h

/-- The whole milliseconds of a duration decide its text. -/
theorem chars_eq_of_millis_eq {d d' : Duration} (h : d.millis = d'.millis) : d.chars = d'.chars := by
  rw [chars, chars, components, components, h]

/-- The whole milliseconds are those of all nanoseconds together. -/
theorem millis_eq_div (d : Duration) :
    d.millis = (d.seconds.toNat * 1000000000 + d.nanos.val) / 1000000 := by
  rw [millis]
  omega

/-- The text of a duration is `0s` if it has no whole millisecond. Otherwise it counts its whole
milliseconds in units, the largest first, none of them twice and none as often as the next larger
one could be counted instead. Two durations have the same text just if their whole milliseconds are
the same. -/
theorem render_counts_millis (d : Duration) :
    d.millis = (d.seconds.toNat * 1000000000 + d.nanos.val) / 1000000 ∧
    ((d.millis = 0 ∧ d.render = "0s") ∨
      (0 < d.millis ∧ ∃ cs, Counts d.millis cs ∧ d.render = String.ofList (spelling cs))) ∧
    ∀ d' : Duration, d.render = d'.render ↔ d.millis = d'.millis := by
  refine ⟨d.millis_eq_div, (chars_cases d).imp ?_ ?_, fun d' => ⟨fun h => ?_, fun h => ?_⟩⟩
  · rintro ⟨zero, text⟩
    exact ⟨zero, congrArg String.ofList text⟩
  · rintro ⟨pos, cs, counts, text⟩
    exact ⟨pos, cs, counts, congrArg String.ofList text⟩
  · exact millis_eq_of_chars_eq (String.ofList_injective h)
  · exact congrArg String.ofList (chars_eq_of_millis_eq h)

-- the millisecond before 53 weeks, and the longest time there is
example : render ⟨32054399, 999999999⟩ = "1y5d23h59m59s999ms" ∧
    render ⟨0xFFFFFFFFFFFFFFFF, 999999999⟩ = "584942417355y3w5d7h15s999ms" := by decide

end Duration

end SelectorGuard
