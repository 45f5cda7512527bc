import SelectorGuard.Json.Reader
import Mathlib.Data.List.Basic
import Mathlib.Data.List.TakeDrop

/-!
# Numerals are read as they are written

A numeral is well formed if it has digits wherever the grammar asks for them and if a zero at its
start stands alone. Every spelling of such a numeral is read as the numeral itself, whatever comes
after it, as long as this does not go on the numeral. Every natural number and every finite number
of double precision is written as a well-formed numeral.
-/

namespace SelectorGuard

namespace Numeral

/-- A numeral as the grammar wants it. -/
structure WellFormed (n : Numeral) : Prop where
  /-- There is a digit before the point. -/
  whole_ne_nil : n.whole ≠ []
  /-- Only digits stand before the point. -/
  whole_digits : ∀ c ∈ n.whole, c.isDigit = true
  /-- A zero before the point stands alone. -/
  no_leading_zero : n.whole.head? = some '0' → n.whole.length = 1
  /-- Only digits stand after the point. -/
  fraction_digits : ∀ c ∈ n.fraction, c.isDigit = true
  /-- The exponent has a digit. -/
  exponent_ne_nil : ∀ e ∈ n.exponent, e.2 ≠ []
  /-- Only digits stand in the exponent. -/
  exponent_digits : ∀ e ∈ n.exponent, ∀ c ∈ e.2, c.isDigit = true

/-- A character that no numeral goes on with. -/
def Stops (c : Char) : Prop :=
  c.isDigit = false ∧ c ≠ '.' ∧ c ≠ 'e' ∧ c ≠ 'E'

instance (c : Char) : Decidable (Stops c) :=
  inferInstanceAs (Decidable (_ ∧ _))

/-- A text that does not go on a numeral in front of it. -/
def Ends (cs : List Char) : Prop :=
  ∀ c ∈ cs.head?, Stops c

/-- A text ends a numeral if its first character does. -/
theorem ends_cons {c : Char} (h : Stops c) (cs : List Char) : Ends (c :: cs) := by
  rintro _ ⟨⟩
  exact h

variable {digits rest : List Char}

/-- Digits are read up to a character that is none. -/
theorem readDigits?_append (ne : digits ≠ []) (h : ∀ c ∈ digits, c.isDigit = true)
    (ends : ∀ c ∈ rest.head?, c.isDigit = false) :
    readDigits? (digits ++ rest) = some (digits, rest) := by
  have stop : rest.takeWhile Char.isDigit = [] ∧ rest.dropWhile Char.isDigit = rest := by
    cases rest with
    | nil => exact ⟨rfl, rfl⟩
    | cons c cs =>
      have none : c.isDigit = false := ends c rfl
      simp [none]
  have span : (digits ++ rest).span Char.isDigit = (digits, rest) := by
    rw [List.span_eq_takeWhile_dropWhile, List.takeWhile_append_of_pos h,
      List.dropWhile_append_of_pos h, stop.1, stop.2, List.append_nil]
  rw [readDigits?, span]
  exact if_neg (by simpa using ne)

/-- A sign is read, and it is not taken for one if a digit follows. -/
theorem readSign_append (negative : Bool) {c : Char} (h : c.isDigit = true) (cs : List Char) :
    readSign ((if negative then ['-'] else []) ++ c :: cs) = (negative, c :: cs) := by
  cases negative with
  | true => rfl
  | false =>
    have ne : c ≠ '-' := by
      rintro rfl
      cases h
    rw [if_neg Bool.false_ne_true, List.nil_append]
    unfold readSign
    split
    · next eq => exact absurd (List.cons.inj eq).1 ne
    · rfl

/-- The digits before the point are read. -/
theorem readWhole?_append {n : Numeral} (h : n.WellFormed)
    (ends : ∀ c ∈ rest.head?, c.isDigit = false) :
    readWhole? (n.whole ++ rest) = some (n.whole, rest) := by
  rw [readWhole?, readDigits?_append h.whole_ne_nil h.whole_digits ends]
  refine if_neg fun hc => ?_
  rw [Bool.and_eq_true, beq_iff_eq, bne_iff_ne] at hc
  exact hc.2 (h.no_leading_zero hc.1)

/-- The part behind the point. -/
def fractionChars (n : Numeral) : List Char :=
  if n.fraction.isEmpty then [] else '.' :: n.fraction

/-- A text spells an exponent, and it is empty where there is none. The letter in front is small or
capital, and a plus sign may be left out. -/
inductive SpellsExponent : Option (Bool × List Char) → List Char → Prop where
  | none : SpellsExponent none []
  | signed {letter : Char} (hl : letter = 'e' ∨ letter = 'E') (negative : Bool)
    (digits : List Char) :
    SpellsExponent (some (negative, digits)) (letter :: (if negative then '-' else '+') :: digits)
  | unsigned {letter : Char} (hl : letter = 'e' ∨ letter = 'E') (digits : List Char) :
    SpellsExponent (some (false, digits)) (letter :: digits)

/-- A text spells a numeral: a sign, digits, a fraction and an exponent. -/
inductive Spells (n : Numeral) : List Char → Prop where
  | intro {exponent : List Char} (wellFormed : n.WellFormed)
    (he : SpellsExponent n.exponent exponent) :
    Spells n ((if n.negative then ['-'] else []) ++ (n.whole ++ (n.fractionChars ++ exponent)))

/-- The characters of a well-formed numeral spell it. -/
theorem WellFormed.spells_chars {n : Numeral} (h : n.WellFormed) : n.Spells n.chars := by
  obtain ⟨negative, whole, fraction, exponent⟩ := n
  simp only [chars, List.append_assoc]
  cases exponent with
  | none => exact .intro h .none
  | some e => exact .intro h (.signed (.inl rfl) e.1 e.2)

/-- The fraction is read. -/
theorem readFraction?_append {n : Numeral} (h : n.WellFormed)
    (ends : ∀ c ∈ rest.head?, c.isDigit = false ∧ c ≠ '.') :
    readFraction? (n.fractionChars ++ rest) = some (n.fraction, rest) := by
  unfold fractionChars
  split
  · next empty =>
    rw [List.isEmpty_iff.mp empty, List.nil_append]
    unfold readFraction?
    split
    · exact absurd rfl (ends _ rfl).2
    · rfl
  · next some =>
    exact readDigits?_append (by simpa using some) h.fraction_digits fun c hc => (ends c hc).1

/-- No digit is taken for the sign of an exponent. -/
theorem readExponentSign_cons {c : Char} (h : c.isDigit = true) (cs : List Char) :
    readExponentSign (c :: cs) = (false, c :: cs) := by
  unfold readExponentSign
  split
  · next eq => exact absurd h ((List.cons.inj eq).1 ▸ by decide)
  · next eq => exact absurd h ((List.cons.inj eq).1 ▸ by decide)
  · rfl

/-- An exponent ends a fraction, and so does what follows if there is none. -/
theorem SpellsExponent.ends_fraction {e : Option (Bool × List Char)} {exponent : List Char}
    (h : SpellsExponent e exponent) (ends : Ends rest) :
    ∀ c ∈ (exponent ++ rest).head?, c.isDigit = false ∧ c ≠ '.' := by
  have letters {letter : Char} (hl : letter = 'e' ∨ letter = 'E') :
      letter.isDigit = false ∧ letter ≠ '.' := by
    rcases hl with rfl | rfl <;> decide
  cases h with
  | none => exact fun c hc => ⟨(ends c hc).1, (ends c hc).2.1⟩
  | signed hl => exact fun c hc => Option.some.inj hc ▸ letters hl
  | unsigned hl => exact fun c hc => Option.some.inj hc ▸ letters hl

/-- The exponent is read, however it is spelled. -/
theorem readExponent?_append {n : Numeral} (h : n.WellFormed) {exponent : List Char}
    (he : SpellsExponent n.exponent exponent) (ends : Ends rest) :
    readExponent? (exponent ++ rest) = some (n.exponent, rest) := by
  have digits {e : Bool × List Char} (given : n.exponent = some e) :
      readDigits? (e.2 ++ rest) = some (e.2, rest) :=
    readDigits?_append (h.exponent_ne_nil e given) (h.exponent_digits e given)
      fun c hc => (ends c hc).1
  generalize given : n.exponent = found at he
  cases he with
  | none =>
    rw [List.nil_append]
    unfold readExponent?
    split
    · exact absurd rfl (ends _ rfl).2.2.1
    · exact absurd rfl (ends _ rfl).2.2.2
    · rfl
  | signed hl negative _ =>
    have read := digits given
    rcases hl with rfl | rfl <;> cases negative <;> simp only [readExponent?, readExponentSign,
      List.cons_append, if_true, Bool.false_eq_true, if_false, read, Option.bind_eq_bind,
      Option.bind_some, Option.pure_def]
  | unsigned hl ds =>
    have read := digits given
    obtain ⟨c, cs, start⟩ := List.exists_cons_of_ne_nil (h.exponent_ne_nil _ given)
    have digit := h.exponent_digits _ given c (start ▸ List.mem_cons_self)
    dsimp only at start read
    subst start
    rcases hl with rfl | rfl <;> simp only [readExponent?, List.cons_append,
      readExponentSign_cons digit] at read ⊢ <;> simp only [read, Option.bind_eq_bind,
      Option.bind_some, Option.pure_def]

/-- A numeral starts with a digit or a minus sign. -/
theorem Spells.exists_cons {n : Numeral} {cs : List Char} (h : n.Spells cs) :
    ∃ c tail, cs = c :: tail ∧ (c.isDigit = true ∨ c = '-') := by
  obtain ⟨wellFormed, -⟩ := h
  obtain ⟨c, cs, start⟩ := List.exists_cons_of_ne_nil wellFormed.whole_ne_nil
  rw [start]
  cases n.negative with
  | true => exact ⟨_, _, rfl, .inr rfl⟩
  | false => exact ⟨_, _, rfl, .inl (wellFormed.whole_digits c (start ▸ List.mem_cons_self))⟩

/-- A numeral is read from each of its spellings, whatever comes after it. -/
theorem read?_append_of_spells {n : Numeral} {cs : List Char} (h : n.Spells cs)
    (ends : Ends rest) : read? (cs ++ rest) = some (n, rest) := by
  obtain ⟨wellFormed, he⟩ := h
  next exponent =>
  have behindFraction := he.ends_fraction ends
  have behindWhole : ∀ c ∈ (n.fractionChars ++ (exponent ++ rest)).head?, c.isDigit = false := by
    unfold fractionChars
    split
    · exact fun c hc => (behindFraction c hc).1
    · rintro _ ⟨⟩
      decide
  obtain ⟨c, digits, start⟩ := List.exists_cons_of_ne_nil wellFormed.whole_ne_nil
  have sign : readSign ((if n.negative then ['-'] else []) ++
      (n.whole ++ (n.fractionChars ++ (exponent ++ rest)))) =
      (n.negative, n.whole ++ (n.fractionChars ++ (exponent ++ rest))) := by
    rw [start]
    exact readSign_append _ (wellFormed.whole_digits c (start ▸ List.mem_cons_self)) _
  simp only [read?, List.append_assoc, sign, readWhole?_append wellFormed behindWhole,
    readFraction?_append wellFormed behindFraction, readExponent?_append wellFormed he ends,
    Option.bind_eq_bind, Option.bind_some, Option.pure_def]

/-! ### What is read is spelled -/

section

variable {cs left : List Char}

/-- Digits that are read stand in front, and there is at least one. -/
theorem eq_append_of_readDigits? (h : readDigits? cs = some (digits, left)) :
    cs = digits ++ left ∧ digits ≠ [] ∧ ∀ c ∈ digits, c.isDigit = true := by
  simp only [readDigits?, List.span_eq_takeWhile_dropWhile] at h
  split at h
  · cases h
  · next some =>
    cases h
    exact ⟨List.takeWhile_append_dropWhile.symm, by simpa using some,
      List.all_eq_true.mp List.all_takeWhile⟩

/-- The sign that is read stands in front. -/
theorem eq_append_readSign (cs : List Char) :
    cs = (if (readSign cs).1 then ['-'] else []) ++ (readSign cs).2 := by
  unfold readSign
  split <;> rfl

/-- The digits that are read before the point stand in front. -/
theorem eq_append_of_readWhole? (h : readWhole? cs = some (digits, left)) :
    cs = digits ++ left ∧ digits ≠ [] ∧ (∀ c ∈ digits, c.isDigit = true) ∧
      (digits.head? = some '0' → digits.length = 1) := by
  obtain ⟨⟨ds, rest⟩, read, h⟩ := Option.bind_eq_some_iff.mp h
  dsimp only at h
  split at h
  · cases h
  · next alone =>
    cases h
    obtain ⟨eq, ne, all⟩ := eq_append_of_readDigits? read
    exact ⟨eq, ne, all, fun zero => by simpa [zero] using alone⟩

/-- The fraction that is read stands in front. -/
theorem eq_append_of_readFraction? (h : readFraction? cs = some (digits, left)) :
    cs = (if digits.isEmpty then [] else '.' :: digits) ++ left ∧
      ∀ c ∈ digits, c.isDigit = true := by
  unfold readFraction? at h
  split at h
  · obtain ⟨rfl, ne, all⟩ := eq_append_of_readDigits? h
    exact ⟨by rw [if_neg (by simpa using ne)]; rfl, all⟩
  · cases h
    exact ⟨rfl, nofun⟩

/-- A letter, a sign that may be left out and digits spell an exponent. -/
theorem spellsExponent_of_readExponentSign {letter : Char} (hl : letter = 'e' ∨ letter = 'E')
    (h : (readExponentSign cs).2 = digits ++ left) :
    ∃ front, letter :: cs = front ++ left ∧
      SpellsExponent (some ((readExponentSign cs).1, digits)) front := by
  unfold readExponentSign at h ⊢
  split at h
  · exact ⟨_, congrArg (letter :: '-' :: ·) h, .signed hl true digits⟩
  · exact ⟨_, congrArg (letter :: '+' :: ·) h, .signed hl false digits⟩
  · exact ⟨_, congrArg (letter :: ·) h, .unsigned hl digits⟩

/-- The exponent that is read is spelled in front. -/
theorem exists_append_of_readExponent? {e : Option (Bool × List Char)}
    (h : readExponent? cs = some (e, left)) :
    ∃ front, cs = front ++ left ∧ SpellsExponent e front ∧
      ∀ x ∈ e, x.2 ≠ [] ∧ ∀ c ∈ x.2, c.isDigit = true := by
  have behind {letter : Char} (hl : letter = 'e' ∨ letter = 'E') {rest : List Char}
      (h : ((readDigits? (readExponentSign rest).2).bind fun r =>
        some (some ((readExponentSign rest).1, r.1), r.2)) = some (e, left)) :
      ∃ front, letter :: rest = front ++ left ∧ SpellsExponent e front ∧
        ∀ x ∈ e, x.2 ≠ [] ∧ ∀ c ∈ x.2, c.isDigit = true := by
    obtain ⟨⟨ds, left⟩, read, h⟩ := Option.bind_eq_some_iff.mp h
    cases h
    obtain ⟨eq, ne, all⟩ := eq_append_of_readDigits? read
    obtain ⟨front, eq, spelled⟩ := spellsExponent_of_readExponentSign hl eq
    exact ⟨front, eq, spelled, fun x hx => Option.some.inj hx ▸ ⟨ne, all⟩⟩
  unfold readExponent? at h
  split at h
  · exact behind (.inl rfl) h
  · exact behind (.inr rfl) h
  · cases h
    exact ⟨[], rfl, .none, nofun⟩

/-- What is read as a numeral is one of its spellings. -/
theorem exists_append_of_read? {n : Numeral} (h : read? cs = some (n, left)) :
    ∃ front, cs = front ++ left ∧ n.Spells front := by
  have sign := eq_append_readSign cs
  rw [read?] at h
  generalize readSign cs = signed at sign h
  obtain ⟨negative, unsigned⟩ := signed
  obtain ⟨⟨whole, rest⟩, read_whole, h⟩ := Option.bind_eq_some_iff.mp h
  obtain ⟨⟨fraction, rest'⟩, read_fraction, h⟩ := Option.bind_eq_some_iff.mp h
  obtain ⟨⟨exponent, rest''⟩, read_exponent, h⟩ := Option.bind_eq_some_iff.mp h
  cases h
  obtain ⟨eq_whole, ne, digits, alone⟩ := eq_append_of_readWhole? read_whole
  obtain ⟨eq_fraction, fraction_digits⟩ := eq_append_of_readFraction? read_fraction
  obtain ⟨front, eq_exponent, spelled, given⟩ := exists_append_of_readExponent? read_exponent
  rw [eq_whole, eq_fraction, eq_exponent] at sign
  refine ⟨_, ?_, .intro ⟨ne, digits, alone, fraction_digits, fun x hx => (given x hx).1,
    fun x hx => (given x hx).2⟩ spelled⟩
  simpa only [List.append_assoc, fractionChars] using sign

end

/-! ### Natural numbers -/

/-- Only zero is written with a zero at the start. -/
theorem head?_toDigits_ne {n : Nat} (h : 0 < n) : (Nat.toDigits 10 n).head? ≠ some '0' := by
  induction n using Nat.strongRecOn with
  | ind n ih =>
    rw [Nat.toDigits_eq_if (by decide)]
    split
    · next lt =>
      have digits : ∀ k < 10, 0 < k → Nat.digitChar k ≠ '0' := by decide
      simpa using digits n lt h
    · next le =>
      rw [List.head?_append_of_ne_nil _ Nat.toDigits_ne_nil]
      exact ih (n / 10) (by omega) (by omega)

/-- A natural number is written as a well-formed numeral. -/
theorem wellFormed_ofNat (n : Nat) : (ofNat n).WellFormed where
  whole_ne_nil := Nat.toDigits_ne_nil
  whole_digits := fun _ => Nat.isDigit_of_mem_toDigits (by decide) (by decide)
  no_leading_zero := by
    intro zero
    rcases Nat.eq_zero_or_pos n with rfl | pos
    · rfl
    · exact absurd zero (head?_toDigits_ne pos)
  fraction_digits := by rintro _ ⟨⟩
  exponent_ne_nil := by rintro _ ⟨⟩
  exponent_digits := by rintro _ ⟨⟩

/-- The digits of a number denote it. -/
theorem natOf_toDigits (n : Nat) : natOf (Nat.toDigits 10 n) = n := by
  have same : natOf (Nat.toDigits 10 n) = Nat.ofDigitChars 10 (Nat.toDigits 10 n) 0 := by
    simp only [natOf, Nat.ofDigitChars, digitValue, Nat.mul_comm]
  rw [same, Nat.ofDigitChars_ten_toDigits]

/-- A natural number of 64 bits is read back from its numeral. -/
theorem toWord?_ofNat {n : Nat} (h : n ≤ maxWord) : (ofNat n).toWord? = some n := by
  rw [toWord?, ofNat, natOf_toDigits, if_neg (by simp), if_pos h]

end Numeral

/-! ### Numbers of double precision -/

namespace Decimal

open Float.Model (UnpackedFloat Format)

/-- A decimal in an interval above zero is not zero. -/
theorem Interval.digits_pos_of_holds {i : Interval} (h : 0 < i.low) {d : Scaled}
    (held : i.holds d = true) : 0 < d.digits := by
  have unit : 0 < i.low * Nat.pow 10 (-d.exponent).toNat :=
    Nat.mul_pos h (Nat.pow_pos (by decide))
  rw [Nat.pos_iff_ne_zero]
  intro zero
  unfold holds at held
  simp only [zero, Nat.zero_mul] at held
  split at held <;> simp only [Bool.and_eq_true, decide_eq_true_eq] at held <;> omega

/-- The decimal that is chosen for a count of digits lies in the interval. -/
theorem Interval.holds_of_nearest? {i : Interval} {tieUp : Bool} {exponent : Int} {d : Scaled}
    (h : i.nearest? tieUp exponent = some d) : i.holds d = true := by
  unfold nearest? at h
  dsimp only at h
  split at h
  · next lower upper =>
    cases h
    split
    · exact upper
    · exact lower
  · next lower _ =>
    cases h
    exact lower
  · next _ upper =>
    cases h
    exact upper
  · cases h

/-- The search ends with a decimal in the interval, if it finds one. -/
theorem Interval.shortestFrom_holds (i : Interval) (tieUp : Bool) (top : Int) (more count : Nat) :
    i.holds (i.shortestFrom tieUp top more count) = true ∨
      i.shortestFrom tieUp top more count = ⟨0, 0⟩ := by
  induction more generalizing count with
  | zero => exact .inr rfl
  | succ more ih =>
    rw [shortestFrom]
    split
    · next d found => exact .inl (holds_of_nearest? found)
    · exact ih (count + 1)

/-- Dropping zeros at the end leaves a number above zero. -/
theorem Scaled.trim_digits_pos {d : Scaled} (h : 0 < d.digits) (n : Nat) :
    0 < (d.trim n).digits := by
  induction n generalizing d with
  | zero => exact h
  | succ n ih =>
    rw [trim]
    split
    · exact ih (by dsimp only; omega)
    · exact h

/-- The shortest decimal of a positive number is not zero, if there is one of at most 17 digits. -/
theorem shortest_digits_pos (tieUp : Bool) {mantissa : Nat} (h : 0 < mantissa) (exponent : Int) :
    0 < (shortest tieUp mantissa exponent).digits ∨
      shortest tieUp mantissa exponent = ⟨0, 17⟩ := by
  have low : 0 < (interval mantissa exponent).low := by
    refine Nat.mul_pos ?_ (Nat.pow_pos (by decide))
    split <;> omega
  unfold shortest
  rcases Interval.shortestFrom_holds (interval mantissa exponent) tieUp
    (tensAbove (interval mantissa exponent).value (interval mantissa exponent).scale) 17 1
    with held | none
  · exact .inl (Scaled.trim_digits_pos (Interval.digits_pos_of_holds low held) 17)
  · right
    dsimp only
    rw [none]
    rfl

/-- The digits of a decimal, before and after the point, are digits. -/
theorem Scaled.isDigit_of_mem_positional (d : Scaled) {c : Char}
    (h : c ∈ d.positional.1 ∨ c ∈ d.positional.2) : c.isDigit = true := by
  have digit {n : Nat} (hd : c ∈ Nat.toDigits 10 n) : c.isDigit = true :=
    Nat.isDigit_of_mem_toDigits (by decide) (by decide) hd
  have zero {n : Nat} (hz : c ∈ List.replicate n '0') : c.isDigit = true := by
    rw [List.eq_of_mem_replicate hz]
    decide
  unfold positional at h
  split at h
  · rcases h with h | h
    · cases h
    · exact (List.mem_append.mp h).elim zero digit
  split at h
  · rcases h with h | h
    · exact (List.mem_append.mp h).elim digit zero
    · cases h
  · rcases h with h | h
    · exact digit (List.mem_of_mem_take h)
    · exact digit (List.mem_of_mem_drop h)

/-- The digits before the point do not start with a zero. -/
theorem Scaled.head?_positional_ne {d : Scaled} (h : 0 < d.digits) :
    d.positional.1.head? ≠ some '0' := by
  have digits := Numeral.head?_toDigits_ne h
  unfold positional
  split
  · exact nofun
  split
  · dsimp only [chars]
    rwa [List.head?_append_of_ne_nil _ Nat.toDigits_ne_nil]
  · dsimp only [chars]
    rw [List.head?_take]
    split
    · exact nofun
    · exact digits

/-- A number is finite just if its exponent bits are not all set. -/
theorem isFinite_iff (x : Float) :
    x.isFinite = true ↔ x.toBits.toNat / leadingBit % 2048 ≠ 2047 := by
  generalize he : @UnpackedFloat.unpackExponent Format.binary64 x.toBits.toBitVec = exponent
  have bits : exponent.toNat = x.toBits.toNat / leadingBit % 2048 := by
    rw [← he]
    simp [UnpackedFloat.unpackExponent, BitVec.extractLsb, Nat.shiftRight_eq_div_pow, leadingBit]
  have top : exponent = -1#_ ↔ x.toBits.toNat / leadingBit % 2048 = 2047 := by
    rw [← bits, ← BitVec.toNat_inj]
    exact Iff.rfl
  have unpacked : x.isFinite = (UnpackedFloat.unpack Format.binary64 x.toBits.toBitVec).isFinite :=
    rfl
  rw [unpacked, ne_eq, ← top]
  delta UnpackedFloat.unpack
  dsimp only
  rw [he]
  by_cases special : exponent = -1#_
  · refine iff_of_false ?_ (not_not_intro special)
    rw [if_pos special]
    by_cases zero : @UnpackedFloat.unpackMantissa Format.binary64 x.toBits.toBitVec = 0#_
    · rw [if_pos zero]
      exact Bool.false_ne_true
    · rw [if_neg zero]
      exact Bool.false_ne_true
  · refine iff_of_true ?_ special
    rw [if_neg special]
    by_cases least : exponent = 0#_
    · rw [if_pos least]
      by_cases zero : @UnpackedFloat.unpackMantissa Format.binary64 x.toBits.toBitVec = 0#_
      · rw [dif_pos zero]
        rfl
      · rw [dif_neg zero]
        rfl
    · rw [if_neg least]
      rfl

/-- A number is finite just if its magnitude is. -/
theorem isFinite_iff_magnitude (x : Float) :
    x.isFinite = true ↔ ∃ mantissa exponent, magnitude x = .finite mantissa exponent := by
  rw [isFinite_iff]
  unfold magnitude
  dsimp only
  by_cases h : x.toBits.toNat / leadingBit % 2048 = 2047
  · rw [if_pos h]
    refine iff_of_false (not_not_intro h) ?_
    split <;> rintro ⟨_, _, ⟨⟩⟩
  · rw [if_neg h]
    refine iff_of_true h ?_
    split <;> exact ⟨_, _, rfl⟩

end Decimal

namespace Numeral

/-- A numeral without exponent is well formed with a zero for every part that has no digits. -/
theorem wellFormed_of_parts (negative : Bool) {whole fraction : List Char}
    (hw : ∀ c ∈ whole, c.isDigit = true) (hf : ∀ c ∈ fraction, c.isDigit = true)
    (zero : whole.head? ≠ some '0') :
    WellFormed ⟨negative, if whole.isEmpty then ['0'] else whole,
      if fraction.isEmpty then ['0'] else fraction, none⟩ where
  whole_ne_nil := by
    dsimp only
    split
    · exact List.cons_ne_nil _ _
    · next h => simpa using h
  whole_digits := by
    dsimp only
    split
    · exact List.forall_mem_singleton.mpr rfl
    · exact hw
  no_leading_zero := by
    dsimp only
    split
    · exact fun _ => rfl
    · exact fun h => absurd h zero
  fraction_digits := by
    dsimp only
    split
    · exact List.forall_mem_singleton.mpr rfl
    · exact hf
  exponent_ne_nil := by rintro _ ⟨⟩
  exponent_digits := by rintro _ ⟨⟩

/-- A numeral with one digit before the point and an exponent is well formed. -/
theorem wellFormed_of_scientific (negative negativeExponent : Bool) (digits exponent : Nat) :
    WellFormed ⟨negative, (Nat.toDigits 10 digits).take 1, (Nat.toDigits 10 digits).drop 1,
      some (negativeExponent, Nat.toDigits 10 exponent)⟩ where
  whole_ne_nil := by simp [Nat.toDigits_ne_nil]
  whole_digits := fun _ hc =>
    Nat.isDigit_of_mem_toDigits (by decide) (by decide) (List.mem_of_mem_take hc)
  no_leading_zero := by
    intro _
    have pos : 0 < (Nat.toDigits 10 digits).length := List.length_pos_iff.mpr Nat.toDigits_ne_nil
    simp only [List.length_take]
    omega
  fraction_digits := fun _ hc =>
    Nat.isDigit_of_mem_toDigits (by decide) (by decide) (List.mem_of_mem_drop hc)
  exponent_ne_nil := by
    rintro _ ⟨⟩
    exact Nat.toDigits_ne_nil
  exponent_digits := by
    rintro _ ⟨⟩
    exact fun _ => Nat.isDigit_of_mem_toDigits (by decide) (by decide)

/-- The numeral of a finite number is well formed. -/
theorem wellFormed_of_ofFloat? {x : Float} {n : Numeral} (h : ofFloat? x = some n) :
    n.WellFormed := by
  unfold ofFloat? at h
  split at h
  · cases h
  · cases h
  · cases h
    have none : ∀ c ∈ ([] : List Char), c.isDigit = true := nofun
    exact wellFormed_of_parts _ none none nofun
  · next m e positive _ =>
    have pos : 0 < m := Nat.pos_of_ne_zero positive
    dsimp only at h
    split at h
    · next plain =>
      cases h
      refine wellFormed_of_parts _
        (fun c hc => Decimal.Scaled.isDigit_of_mem_positional _ (.inl hc))
        (fun c hc => Decimal.Scaled.isDigit_of_mem_positional _ (.inr hc)) ?_
      rcases Decimal.shortest_digits_pos false pos e with digits | zero
      · exact Decimal.Scaled.head?_positional_ne digits
      · rw [zero] at plain
        exact absurd plain (by decide)
    · cases h
      exact wellFormed_of_scientific _ _ _ _

/-- Just the finite numbers have a numeral. -/
theorem isSome_ofFloat?_iff (x : Float) :
    (ofFloat? x).isSome = true ↔ x.isFinite = true := by
  rw [Decimal.isFinite_iff_magnitude]
  unfold ofFloat?
  split
  · next h => simp [h]
  · next h => simp [h]
  · next h => simp [h]
  · next m e _ h =>
    refine iff_of_true ?_ ⟨m, e, h⟩
    dsimp only
    split <;> rfl

end Numeral

end SelectorGuard
