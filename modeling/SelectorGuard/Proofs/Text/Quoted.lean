import SelectorGuard.Text.Quoted
import Mathlib.Tactic.Common

/-!
# Reading quoted literals back

The spelling of every character is read as this character, whatever follows it, so a literal ends at
its own closing quote and nowhere else. A text that starts with a literal therefore determines what
the literal denotes and what comes after it. No control character is left in a literal.
-/

namespace SelectorGuard.Text

/-- A hexadecimal digit is read as the number that it was written for. -/
theorem hexValue?_hexDigit (n : Nat) : hexValue? (hexDigit n) = some (n % 16) := by
  have digits : ∀ k < 16, hexValue? (Nat.digitChar k) = some k := by decide
  exact digits (n % 16) (Nat.mod_lt n (by decide))

/-- Four digits are enough for every number below 0x10000. -/
theorem hexNumber?_hexFour {n : Nat} (h : n < 0x10000) : hexNumber? (hexFour n) = some n := by
  have value : ((n / 4096 % 16 * 16 + n / 256 % 16) * 16 + n / 16 % 16) * 16 + n % 16 = n := by
    omega
  simp only [hexNumber?, hexFour, List.foldl_cons, List.foldl_nil, hexValue?_hexDigit,
    Option.bind_eq_bind, Option.bind_some, Option.pure_def, Nat.zero_mul, Nat.zero_add]
  exact congrArg some value

/-- The code point of a character gives the character back. -/
theorem charOfNat?_toNat (c : Char) : charOfNat? c.toNat = some c := by
  have valid : c.toNat.isValidChar := c.valid
  have back := Char.ofNat_toNat c
  rw [Char.ofNat, dif_pos valid] at back
  rw [charOfNat?, dif_pos valid, back]

/-- A control character lies in the range of four hexadecimal digits. -/
theorem toNat_lt_of_isControl {c : Char} (h : isControl c = true) : c.toNat < 0x10000 := by
  simp only [isControl, Bool.or_eq_true, Bool.and_eq_true, decide_eq_true_eq] at h
  omega

namespace Quoted

/-- A character that needs no protection is read as itself. -/
theorem decodeBody_cons_of_ne {c : Char} (hq : c ≠ '"') (hb : c ≠ '\\') (rest : List Char) :
    decodeBody (c :: rest) = (decodeBody rest).map fun r => (c :: r.1, r.2) := by
  rw [decodeBody]
  · exact if_neg hb
  all_goals simp_all

/-- The spelling of a character is read as the character, whatever follows. -/
theorem decodeBody_escape_append (c : Char) (rest : List Char) :
    decodeBody (escape c ++ rest) = (decodeBody rest).map fun r => (c :: r.1, r.2) := by
  unfold escape
  split
  · next hc => rw [hc]; rfl
  split
  · next hc => rw [hc]; rfl
  split
  · next hc => rw [hc]; rfl
  split
  · next hc => rw [hc]; rfl
  split
  · next hc => rw [hc]; rfl
  split
  · next hc =>
    have number := hexNumber?_hexFour (toNat_lt_of_isControl hc)
    unfold hexFour at number
    simp only [hexFour, List.cons_append, List.nil_append, decodeBody, number,
      charOfNat?_toNat, Option.bind_eq_bind, Option.bind_some]
    cases decodeBody rest <;> rfl
  · next hq hb _ _ _ _ => exact decodeBody_cons_of_ne hq hb rest

/-- The inside of a literal is read up to its own closing quote. -/
theorem decodeBody_flatMap_escape (cs rest : List Char) :
    decodeBody (cs.flatMap escape ++ '"' :: rest) = some (cs, rest) := by
  induction cs with
  | nil => rfl
  | cons c cs ih =>
    rw [List.flatMap_cons, List.append_assoc, decodeBody_escape_append, ih]
    rfl

/-- Reading a literal gives the text that it denotes and leaves what follows it. -/
theorem decode_encode_append_eq (cs rest : List Char) :
    decode (encode cs ++ rest) = some (cs, rest) := by
  have body := decodeBody_flatMap_escape cs rest
  simpa only [encode, decode, List.cons_append, List.append_assoc, List.nil_append] using body

/-- A text that starts with a literal determines the literal and its continuation. -/
theorem encode_append_inj {cs ds rest tail : List Char}
    (h : encode cs ++ rest = encode ds ++ tail) : cs = ds ∧ rest = tail := by
  have both : some (cs, rest) = some (ds, tail) := by
    rw [← decode_encode_append_eq, ← decode_encode_append_eq, h]
  simpa only [Option.some.injEq, Prod.mk.injEq] using both

/-! ### Control characters -/

/-- A hexadecimal digit is no control character. -/
theorem isControl_hexDigit (n : Nat) : isControl (hexDigit n) = false := by
  have digits : ∀ k < 16, isControl (Nat.digitChar k) = false := by decide
  exact digits (n % 16) (Nat.mod_lt n (by decide))

/-- The four digits of a number are no control characters. -/
theorem isControl_of_mem_hexFour {n : Nat} {d : Char} (h : d ∈ hexFour n) :
    isControl d = false := by
  simp only [hexFour, List.mem_cons, List.not_mem_nil, or_false] at h
  rcases h with rfl | rfl | rfl | rfl <;> exact isControl_hexDigit _

/-- A character is spelled without control characters, also if it is one itself. -/
theorem isControl_of_mem_escape {c d : Char} (h : d ∈ escape c) : isControl d = false := by
  have short {mark : Char} (plain : isControl mark = false) (h : d ∈ ['\\', mark]) :
      isControl d = false := by
    rcases List.mem_cons.mp h with rfl | h
    · rfl
    · rwa [List.mem_singleton.mp h]
  unfold escape at h
  split at h
  · exact short rfl h
  split at h
  · exact short rfl h
  split at h
  · exact short rfl h
  split at h
  · exact short rfl h
  split at h
  · exact short rfl h
  split at h
  · rcases List.mem_cons.mp h with rfl | h
    · rfl
    rcases List.mem_cons.mp h with rfl | h
    · rfl
    · exact isControl_of_mem_hexFour h
  · next plain =>
    rw [List.mem_singleton.mp h]
    exact Bool.eq_false_iff.mpr plain

/-- No control character stands in a literal. -/
theorem isControl_of_mem_encode {cs : List Char} {d : Char} (h : d ∈ encode cs) :
    isControl d = false := by
  rcases List.mem_cons.mp h with rfl | h
  · rfl
  rcases List.mem_append.mp h with h | h
  · obtain ⟨c, -, spelled⟩ := List.mem_flatMap.mp h
    exact isControl_of_mem_escape spelled
  · rw [List.mem_singleton.mp h]
    rfl

/-- A literal stands for exactly one text, whatever it is and whatever comes behind the literal:
reading gives the text and leaves what comes behind. There is no control character in the literal,
and so it stays on one line. -/
theorem decode_encode_append_and_no_control (s t : String) :
    decode (encode s.toList ++ t.toList) = some (s.toList, t.toList) ∧
      ∀ c ∈ encode s.toList, isControl c = false ∧ c ≠ '\n' := by
  refine ⟨decode_encode_append_eq s.toList t.toList, fun c hc => ?_⟩
  have plain := isControl_of_mem_encode hc
  refine ⟨plain, ?_⟩
  rintro rfl
  exact absurd plain (by decide)

-- a backslash and a control character that are easily taken for each other, and a quote behind both
example : encode "\\u0001\x01\\".toList = "\"\\\\u0001\\u0001\\\\\"".toList := by decide

end Quoted

end SelectorGuard.Text
