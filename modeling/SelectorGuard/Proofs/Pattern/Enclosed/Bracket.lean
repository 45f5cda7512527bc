import SelectorGuard.Pattern.Bracket
import SelectorGuard.Proofs.Pattern.Enclosed.Lexeme

/-!
# Reading bracketed sets inside a group

A bracketed set ends with its closing bracket, so what stands behind the pattern is never part of
it. A POSIX class that is not closed inside the pattern is not closed by what stands behind it
either, and the reader, which looks ahead after a minus sign, sees the same character.
-/

namespace SelectorGuard.Pattern

open Text (isBlank)

variable {m : Mode} {cs ds left : List Char}

/-- The start of the parts of a bracket is read the same. -/
theorem openParts_append {negated : Bool} {b : Bracket}
    (h : openParts m negated cs = some (b, left)) :
    openParts m negated (cs ++ closing) = some (b, left ++ closing) := by
  unfold openParts at h ⊢
  dsimp only at h
  split at h
  · cases h
  · next more rest =>
    have run : gather m (· == '-') cs = (_, ']' :: more) := Prod.ext rfl rest
    simp only [gather_append run]
    split at h
    · next first =>
      rw [if_pos first]
      split at h
      · cases h
      · next nonempty =>
        obtain ⟨c, others, skipped⟩ := List.exists_cons_of_ne_nil (l := m.skip more) nonempty
        rw [skipped] at h
        cases h
        simp only [skip_append_of_cons skipped]
        rfl
    · next later =>
      cases h
      rw [if_neg later, rest]
      rfl
  · next nonempty not_bracket =>
    obtain ⟨c, more, rest⟩ := List.exists_cons_of_ne_nil nonempty
    have run : gather m (· == '-') cs = (_, c :: more) := Prod.ext rfl rest
    cases h
    simp only [gather_append run]
    split
    · next eq => cases eq
    · next eq =>
      obtain ⟨rfl, -⟩ := List.cons.inj eq
      exact absurd rest (not_bracket more)
    · rw [rest]
      rfl

/-- The opening of a bracket is read the same. -/
theorem openBracket_append {b : Bracket} (h : openBracket m cs = some (b, left)) :
    openBracket m (cs ++ closing) = some (b, left ++ closing) := by
  have inside {negated : Bool} {es : List Char}
      (h : openParts m negated (m.skip es) = some (b, left)) :
      openParts m negated (m.skip (es ++ closing)) = some (b, left ++ closing) := by
    have started : m.skip es ≠ [] := by
      intro none
      rw [none] at h
      cases h
    rw [skip_append started]
    exact openParts_append h
  unfold openBracket at h ⊢
  split at h
  · next rest start =>
    simp only [skip_append_of_cons start]
    exact inside h
  · next not_caret =>
    have onward := inside h
    have skipped := extends_skip_append m cs
    split
    · next rest start =>
      obtain ⟨more, caret, -⟩ := (start ▸ skipped).eq_cons_of_ne (by decide)
      exact absurd caret (not_caret more)
    · exact onward

/-- A POSIX class is there or not whatever stands behind the text. -/
theorem readPosixName_append (negated : Bool) (cs : List Char) :
    readPosixName negated (cs ++ closing) =
      (readPosixName negated cs).map fun r => (r.1, r.2.1, r.2.2 ++ closing) := by
  unfold readPosixName
  cases cut : cs.span (· != ':') with
  | mk name rest =>
    cases rest with
    | nil =>
      rw [List.span_eq_takeWhile_dropWhile] at cut
      rw [List.span_eq_takeWhile_dropWhile, List.dropWhile_append, (Prod.mk.inj cut).2]
      rfl
    | cons c rest =>
      simp only [span_append cut]
      split
      · next eq =>
        obtain ⟨rfl, both⟩ := Prod.mk.inj eq
        obtain ⟨rfl, tail⟩ := List.cons.inj both
        obtain ⟨inner, rfl, rfl⟩ := Extends.eq_cons_of_ne (Or.inl tail.symm) (by decide)
        simp only [Option.map_map]
        rfl
      · next unnamed =>
        split
        · next eq =>
          cases eq
          exact (unnamed _ _ rfl).elim
        · rfl

/-- A POSIX class is there or not whatever stands behind the text. -/
theorem readPosixClass_append (cs : List Char) :
    readPosixClass (cs ++ closing) =
      (readPosixClass cs).map fun r => (r.1, r.2.1, r.2.2 ++ closing) := by
  fun_cases readPosixClass cs
  · next rest => exact readPosixName_append true rest
  · next rest not_caret =>
    rw [List.cons_append,
      readPosixClass.eq_2 _ (append_closing_ne ['^'] (by decide) not_caret)]
    exact readPosixName_append false rest
  · next not_caret not_colon =>
    rw [readPosixClass.eq_3 _ (append_closing_ne [':', '^'] (by decide) not_caret)
      (append_closing_ne [':'] (by decide) not_colon)]
    rfl

/-- A character or escape in brackets is read the same. -/
theorem steady_readBracketPrimitive (m : Mode) : Steady (readBracketPrimitive m) := by
  refine Steady.of_append rfl ?_
  intro cs left q h
  unfold readBracketPrimitive at h
  split at h
  · cases h
  · next rest =>
    exact steady_readEscape m (Or.inl rfl) h
  · next c rest plain =>
    cases h
    refine ⟨left ++ closing, ?_, Or.inl rfl⟩
    rw [List.cons_append, readBracketPrimitive.eq_3 _ _ _ plain]

/-! ### Looking ahead -/

/-- Dropping blanks and comments drops leading blanks. -/
theorem dropRemarks_dropWhile (cs : List Char) :
    dropRemarks false (cs.dropWhile isBlank) = dropRemarks false cs := by
  induction cs with
  | nil => rfl
  | cons c rest ih =>
    by_cases blank : isBlank c = true
    · rw [List.dropWhile_cons_of_pos blank, ih, dropRemarks, if_neg Bool.false_ne_true,
        if_pos blank]
    · rw [List.dropWhile_cons_of_neg blank]

/-- Nothing is left of blanks, be they in a comment or not. -/
theorem dropRemarks_of_dropWhile {inComment : Bool} (h : cs.dropWhile isBlank = []) :
    dropRemarks inComment cs = [] := by
  induction cs generalizing inComment with
  | nil => rfl
  | cons c rest ih =>
    have blank : isBlank c = true := by
      rw [← Bool.not_eq_false]
      intro solid
      rw [List.dropWhile_cons_of_neg (by simp [solid])] at h
      cases h
    rw [List.dropWhile_cons_of_pos blank] at h
    rw [dropRemarks, if_pos blank, ih h, ih h, ite_self]

/-- The first character of a text is blank, or it is the first one behind the blanks. -/
theorem isBlank_or_head_dropWhile {c : Char} (h : cs.head? = some c) :
    isBlank c = true ∨ (cs.dropWhile isBlank).head? = some c := by
  obtain ⟨rest, rfl⟩ := List.head?_eq_some_iff.mp h
  by_cases blank : isBlank c = true
  · exact Or.inl blank
  · rw [List.dropWhile_cons_of_neg blank]
    exact Or.inr rfl

/-- Looking ahead sees the same character whatever stands behind the text, unless nothing but blanks
and comments are left in it. Then it sees a blank, or the start of a comment, or nothing. -/
theorem lookAhead_append (m : Mode) (cs : List Char) :
    lookAhead m (cs ++ closing) = lookAhead m cs ∨
      m.skip cs = [] ∧ ∀ c, lookAhead m cs = some c → isBlank c = true ∨ c = '#' := by
  unfold lookAhead Mode.skip
  split
  · rw [← dropRemarks_dropWhile cs, List.dropWhile_append]
    have first : ∀ c, cs.head? = some c → isBlank c = true ∨
        (cs.dropWhile isBlank).head? = some c := fun _ => isBlank_or_head_dropWhile
    generalize cs.dropWhile isBlank = solid at first
    cases solid with
    | nil =>
      refine Or.inr ⟨rfl, fun c seen => ?_⟩
      rcases first c seen with blank | ⟨⟨⟩⟩
      exact Or.inl blank
    | cons d more =>
      simp only [List.isEmpty_cons, Bool.false_eq_true, if_false, List.cons_append]
      by_cases remark : d = '#'
      · subst remark
        cases inner : more.dropWhile isBlank with
        | nil =>
          have swallowed : dropRemarks true more = [] := dropRemarks_of_dropWhile inner
          refine Or.inr ⟨swallowed, fun c seen => ?_⟩
          simp only [inner] at seen
          rcases first c seen with blank | seen
          · exact Or.inl blank
          · exact Or.inr (Option.some.inj seen).symm
        | cons e others =>
          refine Or.inl ?_
          simp only [inner, List.dropWhile_append, List.isEmpty_cons, Bool.false_eq_true, if_false,
            List.cons_append]
      · refine Or.inl ?_
        split
        · next eq => cases eq
        · next eq => exact absurd (List.cons.inj eq).1 remark
        · next eq =>
          obtain ⟨rfl, -⟩ := List.cons.inj eq
          rfl
  · cases cs with
    | nil => exact Or.inr ⟨rfl, nofun⟩
    | cons c rest => exact Or.inl rfl

/-! ### Members and brackets -/

/-- A character, class or range in brackets is read the same. -/
theorem readMember_append {set : CharSet} (h : readMember m cs = some (set, left)) :
    ∃ behind, readMember m (cs ++ closing) = some (set, behind) ∧ Extends left behind := by
  unfold readMember at h ⊢
  obtain ⟨⟨first, rest⟩, read, h⟩ := Option.bind_eq_some_iff.mp h
  obtain ⟨onward, again, extended⟩ := steady_readBracketPrimitive m (Or.inl rfl) read
  have skipped := extended.skip m
  simp only [again, Option.bind_eq_bind, Option.bind_some]
  dsimp only at h
  split at h
  · cases h
  · next more start =>
    rw [start] at skipped
    have ahead := lookAhead_append m more
    simp only [skipped.eq_of_cons]
    split at h
    · next single =>
      -- What is seen is neither blank nor a comment, so it is seen again.
      have same : lookAhead m (more ++ closing) = lookAhead m more := by
        refine ahead.resolve_right ?_
        rintro ⟨-, remarks⟩
        rw [Bool.or_eq_true, beq_iff_eq, beq_iff_eq] at single
        rcases single with seen | seen
        · exact absurd (remarks _ seen) (by decide)
        · exact absurd (remarks _ seen) (by decide)
      obtain ⟨s, member, h⟩ := Option.bind_eq_some_iff.mp h
      cases h
      refine ⟨_, ?_, Or.inl rfl⟩
      rw [same, if_pos single, member, start]
      rfl
    · next range =>
      obtain ⟨⟨last, inner⟩, second, h⟩ := Option.bind_eq_some_iff.mp h
      have same : lookAhead m (more ++ closing) = lookAhead m more := by
        refine ahead.resolve_right ?_
        rintro ⟨none, -⟩
        rw [none] at second
        cases second
      obtain ⟨behind, onward, extended⟩ :=
        steady_readBracketPrimitive m (extends_skip_append m more) second
      obtain ⟨a, low, h⟩ := Option.bind_eq_some_iff.mp h
      obtain ⟨b, high, h⟩ := Option.bind_eq_some_iff.mp h
      dsimp only at h
      split at h
      · next ordered =>
        cases h
        refine ⟨behind, ?_, extended⟩
        rw [same, if_neg range]
        simp only [onward, low, high, Option.bind_some, if_pos ordered]
        rfl
      · cases h
  · next nonempty not_range =>
    obtain ⟨s, member, h⟩ := Option.bind_eq_some_iff.mp h
    cases h
    refine ⟨m.skip onward, ?_, skipped⟩
    split
    · next none =>
      rw [none] at skipped
      rcases skipped with eq | ⟨none, -⟩
      · exact absurd (List.append_eq_nil_iff.mp eq.symm).2 (by decide)
      · exact absurd none nonempty
    · next more start =>
      obtain ⟨inner, minus, -⟩ := (start ▸ skipped).eq_cons_of_ne (by decide)
      exact absurd minus (not_range inner)
    · rw [member]
      rfl

/-- A bracket that closes inside the text is read the same. -/
theorem readBracket_append {n k : Nat} {b : Bracket} {outer : List Bracket} {operand : Operand}
    (h : Extends cs ds) (enough : n ≤ k) (hr : readBracket m n b outer cs = some (operand, left)) :
    readBracket m k b outer ds = some (operand, left ++ closing) := by
  induction n generalizing k b outer cs ds with
  | zero => cases hr
  | succ n ih =>
    obtain ⟨k, rfl⟩ : ∃ l, k = l + 1 := ⟨k - 1, by omega⟩
    have fuel : n ≤ k := by omega
    have skipped := h.skip m
    rw [readBracket] at hr
    rw [readBracket]
    split at hr
    · cases hr
    · next rest start =>
      rw [start] at skipped
      simp only [skipped.eq_of_cons, readPosixClass_append]
      split at hr
      · next set negated inner named =>
        obtain ⟨folded, legal, hr⟩ := Option.bind_eq_some_iff.mp hr
        simp only [named, Option.map_some, Option.bind_eq_bind, legal, Option.bind_some]
        exact ih (Or.inl rfl) fuel hr
      · next unnamed =>
        obtain ⟨⟨inner, behind⟩, opened, hr⟩ := Option.bind_eq_some_iff.mp hr
        simp only [unnamed, Option.map_none, openBracket_append opened, Option.bind_eq_bind,
          Option.bind_some]
        exact ih (Or.inl rfl) fuel hr
    · next rest start =>
      rw [start] at skipped
      simp only [skipped.eq_of_cons]
      obtain ⟨closed, legal, hr⟩ := Option.bind_eq_some_iff.mp hr
      simp only [legal, Option.bind_eq_bind, Option.bind_some]
      cases outer with
      | nil =>
        cases hr
        rfl
      | cons parent others => exact ih (Or.inl rfl) fuel hr
    · next rest start =>
      rw [start] at skipped
      simp only [skipped.eq_of_cons, List.cons_append]
      exact ih (Or.inl rfl) fuel hr
    · next rest start =>
      rw [start] at skipped
      simp only [skipped.eq_of_cons, List.cons_append]
      exact ih (Or.inl rfl) fuel hr
    · next rest start =>
      rw [start] at skipped
      simp only [skipped.eq_of_cons, List.cons_append]
      exact ih (Or.inl rfl) fuel hr
    · next nonempty not_open not_close not_and not_minus not_tilde =>
      obtain ⟨c, rest, start⟩ := List.exists_cons_of_ne_nil nonempty
      obtain ⟨⟨set, inner⟩, member, hr⟩ := Option.bind_eq_some_iff.mp hr
      obtain ⟨behind, onward, extended⟩ := readMember_append member
      have es : m.skip ds = m.skip cs ++ closing := by
        rw [start] at skipped ⊢
        exact skipped.eq_of_cons
      rw [← es] at onward
      split
      · next eq => exact absurd (List.append_eq_nil_iff.mp (es.symm.trans eq)).1 nonempty
      · next eq => exact (append_closing_ne ['['] (by decide) not_open _ (es.symm.trans eq)).elim
      · next eq => exact (append_closing_ne [']'] (by decide) not_close _ (es.symm.trans eq)).elim
      · next eq =>
        exact (append_closing_ne ['&', '&'] (by decide) not_and _ (es.symm.trans eq)).elim
      · next eq =>
        exact (append_closing_ne ['-', '-'] (by decide) not_minus _ (es.symm.trans eq)).elim
      · next eq =>
        exact (append_closing_ne ['~', '~'] (by decide) not_tilde _ (es.symm.trans eq)).elim
      · simp only [onward, Option.bind_eq_bind, Option.bind_some]
        exact ih extended fuel hr

end SelectorGuard.Pattern
