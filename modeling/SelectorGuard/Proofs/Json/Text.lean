import SelectorGuard.Json.Reader
import SelectorGuard.Proofs.Text.Quoted

/-!
# JSON texts are read from each of their spellings

A character of a JSON text may be spelled in several ways: as itself, by a short escape, by the
number of its code point, or by the numbers of two surrogates. Reading undoes all of them, whatever
follows, so a text is read up to its own closing quote. A surrogate that does not stand in a pair
spells no character, and a text with one is refused.
-/

namespace SelectorGuard.Json

/-- The text goes on with the number of a low surrogate. -/
def GoesOnLow (cs : List Char) : Prop :=
  ∃ a b c d rest n, cs = '\\' :: 'u' :: a :: b :: c :: d :: rest ∧
    Text.hexNumber? [a, b, c, d] = some n ∧ isLowSurrogate n = true

/-- A text spells the characters between two quotes, with the closing one. It spells nothing if a
surrogate in it stands alone. -/
inductive SpellsText : Option (List Char) → List Char → Prop where
  | close : SpellsText (some []) ['"']
  | plain {c : Char} {text? : Option (List Char)} {cs : List Char} (hq : c ≠ '"') (hb : c ≠ '\\')
    (hc : ¬ c.toNat < 0x20) (h : SpellsText text? cs) : SpellsText (text?.map (c :: ·)) (c :: cs)
  | short {mark char : Char} {text? : Option (List Char)} {cs : List Char}
    (hm : shortEscape? mark = some char) (h : SpellsText text? cs) :
    SpellsText (text?.map (char :: ·)) ('\\' :: mark :: cs)
  | number {a b c d char : Char} {n : Nat} {text? : Option (List Char)} {cs : List Char}
    (hn : Text.hexNumber? [a, b, c, d] = some n) (hc : Text.charOfNat? n = some char)
    (h : SpellsText text? cs) :
    SpellsText (text?.map (char :: ·)) ('\\' :: 'u' :: a :: b :: c :: d :: cs)
  | pair {a b c d e f g h char : Char} {high low : Nat} {text? : Option (List Char)}
    {cs : List Char} (hh : Text.hexNumber? [a, b, c, d] = some high)
    (high_half : isHighSurrogate high = true) (hl : Text.hexNumber? [e, f, g, h] = some low)
    (low_half : isLowSurrogate low = true)
    (hc : Text.charOfNat? (0x10000 + (high - 0xD800) * 0x400 + (low - 0xDC00)) = some char)
    (ht : SpellsText text? cs) :
    SpellsText (text?.map (char :: ·))
      ('\\' :: 'u' :: a :: b :: c :: d :: '\\' :: 'u' :: e :: f :: g :: h :: cs)
  | alone {a b c d : Char} {n : Nat} {text? : Option (List Char)} {cs : List Char}
    (hn : Text.hexNumber? [a, b, c, d] = some n)
    (half : isLowSurrogate n = true ∨ isHighSurrogate n = true ∧ ¬ GoesOnLow cs)
    (h : SpellsText text? cs) :
    SpellsText none ('\\' :: 'u' :: a :: b :: c :: d :: cs)

/-! ### Reading -/

/-- A number with a character is in neither half of the surrogate range. -/
theorem not_surrogate_of_charOfNat? {n : Nat} {c : Char} (h : Text.charOfNat? n = some c) :
    isHighSurrogate n = false ∧ isLowSurrogate n = false := by
  have valid : n.isValidChar := by
    by_contra invalid
    rw [Text.charOfNat?, dif_neg invalid] at h
    cases h
  simp only [Nat.isValidChar] at valid
  simp only [isHighSurrogate, isLowSurrogate, Bool.and_eq_false_iff, decide_eq_false_iff_not]
  omega

/-- A low surrogate is no character, and it is not high either. -/
theorem of_isLowSurrogate {n : Nat} (h : isLowSurrogate n = true) :
    isHighSurrogate n = false ∧ Text.charOfNat? n = none := by
  constructor
  · simp only [isLowSurrogate, isHighSurrogate, Bool.and_eq_true, decide_eq_true_eq,
      Bool.and_eq_false_iff, decide_eq_false_iff_not] at h ⊢
    omega
  · cases found : Text.charOfNat? n with
    | none => rfl
    | some c =>
      rw [(not_surrogate_of_charOfNat? found).2] at h
      cases h

/-- A character that needs no protection is read as itself. -/
theorem readStringBody_cons {c : Char} (hq : c ≠ '"') (hb : c ≠ '\\') (hc : ¬ c.toNat < 0x20)
    (rest : List Char) : readStringBody true (c :: rest) =
      (readStringBody true rest).map fun r => (c :: r.1, r.2) := by
  rw [readStringBody]
  · rw [if_neg (by simp [hb, hc])]
    cases readStringBody true rest <;> rfl
  all_goals simp_all

/-- A short escape is read. -/
theorem readStringBody_short {mark char : Char} (h : shortEscape? mark = some char)
    (rest : List Char) : readStringBody true ('\\' :: mark :: rest) =
      (readStringBody true rest).map fun r => (char :: r.1, r.2) := by
  have ne : mark ≠ 'u' := by
    rintro rfl
    cases h
  rw [readStringBody]
  · rw [h]
    cases readStringBody true rest <;> rfl
  all_goals simp_all

/-- A character is read from the number of its code point. -/
theorem readStringBody_number {a b c d char : Char} {n : Nat}
    (hn : Text.hexNumber? [a, b, c, d] = some n) (hc : Text.charOfNat? n = some char)
    (rest : List Char) : readStringBody true ('\\' :: 'u' :: a :: b :: c :: d :: rest) =
      (readStringBody true rest).map fun r => (char :: r.1, r.2) := by
  simp only [readStringBody, hn, (not_surrogate_of_charOfNat? hc).1, hc, Option.bind_eq_bind,
    Option.bind_some, Bool.and_false, Bool.false_eq_true, if_false, if_true, Option.pure_def]
  cases readStringBody true rest <;> rfl

/-- A low surrogate is refused where a character is expected. -/
theorem readStringBody_low {a b c d : Char} {n : Nat}
    (hn : Text.hexNumber? [a, b, c, d] = some n) (half : isLowSurrogate n = true)
    (rest : List Char) : readStringBody true ('\\' :: 'u' :: a :: b :: c :: d :: rest) = none := by
  obtain ⟨not_high, none⟩ := of_isLowSurrogate half
  simp only [readStringBody, hn, not_high, none, Option.bind_eq_bind, Option.bind_some,
    Option.bind_none, Bool.and_false, Bool.false_eq_true, if_false, if_true]

/-- A text that does not go on with a low surrogate does not do so either with more behind it. -/
theorem SpellsText.not_goesOnLow {text? : Option (List Char)} {cs : List Char}
    (h : SpellsText text? cs) (single : ¬ GoesOnLow cs) (rest : List Char) :
    ¬ GoesOnLow (cs ++ rest) := by
  rintro ⟨a, b, c, d, more, n, eq, hn, half⟩
  cases h with
  | close => cases eq
  | plain hq hb hc h =>
    rw [List.cons_append] at eq
    exact hb (List.cons.inj eq).1
  | short hm h =>
    simp only [List.cons_append, List.cons.injEq, true_and] at eq
    rw [eq.1] at hm
    cases hm
  | number | pair | alone =>
    simp only [List.cons_append, List.cons.injEq, true_and] at eq
    obtain ⟨rfl, rfl, rfl, rfl, -⟩ := eq
    exact single ⟨_, _, _, _, _, n, rfl, hn, half⟩

/-- A high surrogate is refused if no low one follows. -/
theorem readStringBody_high {a b c d : Char} {n : Nat}
    (hn : Text.hexNumber? [a, b, c, d] = some n) (half : isHighSurrogate n = true)
    {rest : List Char} (single : ¬ GoesOnLow rest) :
    readStringBody true ('\\' :: 'u' :: a :: b :: c :: d :: rest) = none := by
  rw [readStringBody.eq_def]
  simp only [hn, half, Option.bind_eq_bind, Option.bind_some, Bool.true_and, if_true]
  split
  · next e f g h more =>
    cases hl : Text.hexNumber? [e, f, g, h] with
    | none => rfl
    | some low =>
      have none : isLowSurrogate low = false := by
        rw [Bool.eq_false_iff]
        exact fun half => single ⟨_, _, _, _, _, low, rfl, hl, half⟩
      simp only [Option.bind_some, none, Bool.false_eq_true, if_false]
  · rfl

/-- What a text spells between two quotes is read, whatever follows, or refused if there is a
surrogate that stands alone. -/
theorem readStringBody_append_of_spells {text? : Option (List Char)} {cs : List Char}
    (h : SpellsText text? cs) (rest : List Char) :
    readStringBody true (cs ++ rest) = text?.map fun text => (text, rest) := by
  induction h with
  | close => simp [readStringBody]
  | plain hq hb hc _ ih =>
    rw [List.cons_append, readStringBody_cons hq hb hc, ih, Option.map_map, Option.map_map]
    rfl
  | short hm _ ih =>
    rw [List.cons_append, List.cons_append, readStringBody_short hm, ih, Option.map_map,
      Option.map_map]
    rfl
  | number hn hc _ ih =>
    simp only [List.cons_append]
    rw [readStringBody_number hn hc, ih, Option.map_map, Option.map_map]
    rfl
  | pair hh high_half hl low_half hc _ ih =>
    simp only [List.cons_append, readStringBody, hh, high_half, hl, low_half, hc, ih,
      Option.bind_eq_bind, Option.bind_some, Bool.true_and, if_true, Option.pure_def]
    cases ‹Option (List Char)› <;> rfl
  | alone hn half h _ =>
    simp only [List.cons_append]
    rcases half with low | ⟨high, single⟩
    · exact readStringBody_low hn low _
    · exact readStringBody_high hn high (h.not_goesOnLow single rest)

/-- A character is read, and then those behind it. -/
theorem exists_of_read_cons {char : Char} {text left : List Char}
    {behind : Option (List Char × List Char)}
    (h : (behind.bind fun r => some (char :: r.1, r.2)) = some (text, left)) :
    ∃ more, behind = some (more, left) ∧ text = char :: more := by
  obtain ⟨⟨more, left⟩, read, h⟩ := Option.bind_eq_some_iff.mp h
  cases h
  exact ⟨more, read, rfl⟩

/-- A text that is read spells its characters in front of what is left. -/
theorem exists_append_of_readStringBody {cs text left : List Char}
    (h : readStringBody true cs = some (text, left)) :
    ∃ front, cs = front ++ left ∧ SpellsText (some text) front := by
  fun_induction readStringBody true cs generalizing text left with
  | case1 => cases h
  | case2 rest =>
    cases h
    exact ⟨_, rfl, .close⟩
  | case3 a b c d rest ih_pair ih =>
    obtain ⟨n, hn, h⟩ := Option.bind_eq_some_iff.mp h
    rw [Bool.true_and] at h
    split at h
    · next high =>
      split at h
      · next e f g i rest =>
        obtain ⟨low, hl, h⟩ := Option.bind_eq_some_iff.mp h
        split at h
        · next low_half =>
          obtain ⟨char, hc, h⟩ := Option.bind_eq_some_iff.mp h
          obtain ⟨more, read, rfl⟩ := exists_of_read_cons h
          obtain ⟨front, rfl, spelled⟩ := ih_pair read
          exact ⟨_, rfl, .pair hn high hl low_half hc spelled⟩
        · cases h
      · cases h
    · obtain ⟨char, hc, h⟩ := Option.bind_eq_some_iff.mp h
      obtain ⟨more, read, rfl⟩ := exists_of_read_cons h
      obtain ⟨front, rfl, spelled⟩ := ih read
      exact ⟨_, rfl, .number hn hc spelled⟩
  | case4 mark rest _ ih =>
    obtain ⟨char, hm, h⟩ := Option.bind_eq_some_iff.mp h
    obtain ⟨more, read, rfl⟩ := exists_of_read_cons h
    obtain ⟨front, rfl, spelled⟩ := ih read
    exact ⟨_, rfl, .short hm spelled⟩
  | case5 => cases h
  | case6 c rest hq _ _ _ plain =>
    rename_i ih
    rw [Bool.or_eq_true, decide_eq_true_iff, decide_eq_true_iff, not_or] at plain
    obtain ⟨more, read, rfl⟩ := exists_of_read_cons h
    obtain ⟨front, rfl, spelled⟩ := ih read
    exact ⟨_, rfl, .plain hq plain.1 plain.2 spelled⟩

/-! ### Writing -/

/-- The spelling of a character in front of what spells characters. -/
theorem SpellsText.escape_append {text? : Option (List Char)} {cs : List Char}
    (h : SpellsText text? cs) (c : Char) : SpellsText (text?.map (c :: ·)) (escape c ++ cs) := by
  have short {mark : Char} (hm : shortEscape? mark = some c) :
      SpellsText (text?.map (c :: ·)) (['\\', mark] ++ cs) :=
    .short hm h
  unfold escape
  split
  · next hc => exact short (by rw [hc]; rfl)
  split
  · next hc => exact short (by rw [hc]; rfl)
  split
  · next hc => exact short (by rw [hc]; rfl)
  split
  · next hc => exact short (by rw [hc]; rfl)
  split
  · next hc => exact short (by rw [hc]; rfl)
  split
  · next hc => exact short (by rw [hc]; rfl)
  split
  · next hc => exact short (by rw [hc]; rfl)
  split
  · next hc =>
    exact .number (Text.hexNumber?_hexFour (Nat.lt_trans hc (by decide)))
      (Text.charOfNat?_toNat c) h
  · next hq hb _ _ _ _ _ hc => exact .plain hq hb hc h

/-- A text that is written between quotes spells itself. -/
theorem spellsText_flatMap_escape (cs : List Char) :
    SpellsText (some cs) (cs.flatMap escape ++ ['"']) := by
  induction cs with
  | nil => exact .close
  | cons c cs ih =>
    rw [List.flatMap_cons, List.append_assoc]
    exact ih.escape_append c

end SelectorGuard.Json
