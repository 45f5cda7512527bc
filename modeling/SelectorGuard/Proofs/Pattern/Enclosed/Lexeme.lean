import SelectorGuard.Pattern.Lexeme
import Mathlib.Data.List.TakeDrop

/-!
# Reading the parts of a pattern inside a group

The text of a pattern is read once on its own and once in front of the closing parenthesis of a
group. As long as it is well formed on its own, both readings go the same way: no part of the
pattern reaches behind its end. Only a comment that is open at the end of the text swallows what
stands behind it, and then nothing at all is left to read.
-/

namespace SelectorGuard.Pattern

open Text (isBlank)

/-- What closes the group around a pattern that is put between anchors. -/
def closing : List Char := [')', '$']

/-- A text goes on with the closing of the group, unless nothing is left of either. -/
def Extends (cs ds : List Char) : Prop :=
  ds = cs ++ closing ∨ cs = [] ∧ ds = []

/-- Where characters are left, what closes the group stands behind them. -/
theorem Extends.eq_of_cons {c : Char} {cs ds : List Char} (h : Extends (c :: cs) ds) :
    ds = c :: (cs ++ closing) := by
  rcases h with rfl | ⟨⟨⟩, -⟩
  rfl

/-- A character that does not close the group stood there before. -/
theorem Extends.eq_cons_of_ne {c : Char} {cs ds : List Char} (h : Extends cs (c :: ds))
    (ne : c ≠ ')') : ∃ rest, cs = c :: rest ∧ ds = rest ++ closing := by
  rcases h with h | ⟨-, ⟨⟩⟩
  cases cs with
  | nil => exact absurd (List.cons.inj h).1 ne
  | cons d rest =>
    obtain ⟨rfl, rfl⟩ := List.cons.inj h
    exact ⟨rest, rfl, rfl⟩

/-- A beginning that does not close the group was there before. -/
theorem Extends.cut {start cs tail : List Char} (h : Extends cs (start ++ tail))
    (open_ : ')' ∉ start) : ∃ rest, cs = start ++ rest := by
  induction start generalizing cs with
  | nil => exact ⟨cs, rfl⟩
  | cons c start ih =>
    rw [List.mem_cons, not_or] at open_
    obtain ⟨rest, rfl, eq⟩ := h.eq_cons_of_ne fun eq => open_.1 eq.symm
    obtain ⟨more, rfl⟩ := ih (Or.inl eq) open_.2
    exact ⟨more, rfl⟩

/-- What closes the group gives a text no other beginning. -/
theorem append_closing_ne (start : List Char) {cs : List Char} (open_ : ')' ∉ start)
    (h : ∀ tail, cs = start ++ tail → False) (tail : List Char) :
    cs ++ closing = start ++ tail → False := by
  intro eq
  obtain ⟨rest, eq⟩ := Extends.cut (Or.inl eq.symm) open_
  exact h rest eq

/-! ### Blanks and comments -/

/-- Dropping blanks and comments leaves what closes the group, unless a comment swallows it. -/
theorem extends_dropRemarks (inComment : Bool) (cs : List Char) :
    Extends (dropRemarks inComment cs) (dropRemarks inComment (cs ++ closing)) := by
  induction cs generalizing inComment with
  | nil =>
    cases inComment with
    | false => exact Or.inl rfl
    | true => exact Or.inr ⟨rfl, rfl⟩
  | cons c rest ih =>
    rw [List.cons_append, dropRemarks, dropRemarks]
    split
    · exact ih _
    split
    · exact ih _
    split
    · exact ih _
    · exact Or.inl rfl

/-- Skipping what the mode skips leaves what closes the group, unless a comment swallows it. -/
theorem Extends.skip {cs ds : List Char} (h : Extends cs ds) (m : Mode) :
    Extends (m.skip cs) (m.skip ds) := by
  unfold Mode.skip
  split
  · rcases h with rfl | ⟨rfl, rfl⟩
    · exact extends_dropRemarks false cs
    · exact Or.inr ⟨rfl, rfl⟩
  · exact h

/-- What is skipped behind a part leaves what closes the group, unless a comment swallows it. -/
theorem extends_skip_append (m : Mode) (cs : List Char) :
    Extends (m.skip cs) (m.skip (cs ++ closing)) :=
  Extends.skip (Or.inl rfl) m

/-- Skipping stops where it stopped without what closes the group. -/
theorem skip_append {m : Mode} {cs : List Char} (h : m.skip cs ≠ []) :
    m.skip (cs ++ closing) = m.skip cs ++ closing :=
  (extends_skip_append m cs).resolve_right fun none => h none.1

/-- Skipping stops at the character where it stopped without what closes the group. -/
theorem skip_append_of_cons {m : Mode} {cs rest : List Char} {c : Char}
    (h : m.skip cs = c :: rest) : m.skip (cs ++ closing) = c :: (rest ++ closing) := by
  rw [skip_append (h ▸ List.cons_ne_nil c rest), h, List.cons_append]

/-- Trimming stops where it stopped without what closes the group. -/
theorem trimStart_append {cs : List Char} (h : Text.trimStart cs ≠ []) :
    Text.trimStart (cs ++ closing) = Text.trimStart cs ++ closing := by
  have kept : ¬ (cs.dropWhile isBlank).isEmpty = true := mt List.isEmpty_iff.mp h
  rw [Text.trimStart, List.dropWhile_append, if_neg kept, Text.trimStart]

/-! ### Runs of characters -/

section Runs

variable {m : Mode} {test : Char → Bool} {c : Char} {cs taken left : List Char}

/-- A run that ends inside the text ends there whatever stands behind the text. -/
theorem gatherOn_append {inComment : Bool} (h : gatherOn m test inComment cs = (taken, c :: left)) :
    gatherOn m test inComment (cs ++ closing) = (taken, c :: (left ++ closing)) := by
  induction cs generalizing inComment taken with
  | nil => cases h
  | cons d rest ih =>
    rw [gatherOn] at h
    rw [List.cons_append, gatherOn]
    split at h
    · next open_ => rw [if_pos open_, ih h]
    next shut =>
    rw [if_neg shut]
    split at h
    · next blank => rw [if_pos blank, ih h]
    next solid =>
    rw [if_neg solid]
    split at h
    · next remark => rw [if_pos remark, ih h]
    next plain =>
    rw [if_neg plain]
    split at h
    · next pass =>
      obtain ⟨rfl, behind⟩ := Prod.mk.inj h
      rw [if_pos pass, ih (Prod.ext rfl behind)]
    · next fail =>
      cases h
      rw [if_neg fail]

/-- A run that ends inside the text ends there whatever stands behind the text. -/
theorem gather_append (h : gather m test cs = (taken, c :: left)) :
    gather m test (cs ++ closing) = (taken, c :: (left ++ closing)) := by
  cases cs with
  | nil => cases h
  | cons d rest =>
    rw [gather] at h
    rw [List.cons_append, gather]
    split at h
    · next pass =>
      obtain ⟨rfl, behind⟩ := Prod.mk.inj h
      rw [if_pos pass, gatherOn_append (Prod.ext rfl behind)]
    · next fail =>
      cases h
      rw [if_neg fail]

/-- A run of a fixed length takes the same characters whatever stands behind the text. -/
theorem gatherUpTo_extends {n : Nat} {ds : List Char} (h : Extends cs ds)
    (full : (gatherUpTo m test n cs).1.length = n) :
    (gatherUpTo m test n ds).1 = (gatherUpTo m test n cs).1 ∧
      Extends (gatherUpTo m test n cs).2 (gatherUpTo m test n ds).2 := by
  induction n generalizing cs ds with
  | zero =>
    have none (es : List Char) : gatherUpTo m test 0 es = ([], es) := by cases es <;> rfl
    rw [none, none]
    exact ⟨rfl, h⟩
  | succ n ih =>
    cases cs with
    | nil => cases full
    | cons d rest =>
      rw [h.eq_of_cons, gatherUpTo, gatherUpTo]
      rw [gatherUpTo] at full
      split at full
      · next pass =>
        have inner := ih (extends_skip_append m rest) (Nat.succ.inj full)
        rw [if_pos pass, if_pos pass]
        exact ⟨congrArg (d :: ·) inner.1, inner.2⟩
      · cases full

/-- A text is cut at the same place whatever stands behind it. -/
theorem span_append (h : cs.span test = (taken, c :: left)) :
    (cs ++ closing).span test = (taken, c :: (left ++ closing)) := by
  rw [List.span_eq_takeWhile_dropWhile] at h ⊢
  obtain ⟨rfl, behind⟩ := Prod.mk.inj h
  have inside : (cs.takeWhile test).length ≠ cs.length := by
    have whole := congrArg List.length (List.takeWhile_append_dropWhile (p := test) (l := cs))
    rw [behind, List.length_append, List.length_cons] at whole
    omega
  rw [List.takeWhile_append, if_neg inside, List.dropWhile_append, behind]
  rfl

end Runs

/-! ### Escapes, counts and openings -/

variable {m : Mode} {cs ds left : List Char}

/-- What a reader makes of a text it makes of the text in front of what closes the group, and it
leaves what closes the group behind what it left before. -/
def Steady {α : Type} (read : List Char → Option (α × List Char)) : Prop :=
  ∀ {cs ds left : List Char} {x : α}, Extends cs ds → read cs = some (x, left) →
    ∃ behind, read ds = some (x, behind) ∧ Extends left behind

/-- A reader of texts that are not empty is steady if it is in front of what closes the group. -/
theorem Steady.of_append {α : Type} {read : List Char → Option (α × List Char)}
    (empty : read [] = none)
    (h : ∀ {cs left : List Char} {x : α}, read cs = some (x, left) →
      ∃ behind, read (cs ++ closing) = some (x, behind) ∧ Extends left behind) :
    Steady read := by
  rintro cs ds left x (rfl | ⟨rfl, rfl⟩) hr
  · exact h hr
  · rw [empty] at hr
    cases hr

/-- A code point with a fixed number of digits is read the same. -/
theorem steady_readFixedHex (m : Mode) (count : Nat) : Steady (readFixedHex m count) := by
  intro cs ds left x h hr
  unfold readFixedHex at hr ⊢
  dsimp only at hr ⊢
  split at hr
  · next full =>
    obtain ⟨digits, behind⟩ := gatherUpTo_extends h full
    obtain ⟨n, number, hr⟩ := Option.bind_eq_some_iff.mp hr
    obtain ⟨c, scalar, hr⟩ := Option.bind_eq_some_iff.mp hr
    cases hr
    refine ⟨_, ?_, behind⟩
    rw [digits, if_pos full]
    simp only [Option.bind_eq_bind, number, scalar, Option.bind_some]
    rfl
  · cases hr

/-- A code point in braces is read the same. -/
theorem readBracedHex_append {c : Char} (h : readBracedHex m cs = some (c, left)) :
    ∃ behind, readBracedHex m (cs ++ closing) = some (c, behind) ∧ Extends left behind := by
  unfold readBracedHex at h ⊢
  split at h
  · next d digits rest run =>
    have inside : m.skip cs ≠ [] := by
      intro none
      rw [none] at run
      cases run
    obtain ⟨n, number, h⟩ := Option.bind_eq_some_iff.mp h
    obtain ⟨scalar, valid, h⟩ := Option.bind_eq_some_iff.mp h
    cases h
    refine ⟨_, ?_, extends_skip_append m rest⟩
    rw [skip_append inside, gather_append run]
    simp only [Option.bind_eq_bind, number, valid, Option.bind_some]
    rfl
  · cases h

/-- A hexadecimal escape is read the same. -/
theorem readHex_append {count : Nat} {q : Primitive} (h : readHex m count cs = some (q, left)) :
    ∃ behind, readHex m count (cs ++ closing) = some (q, behind) ∧ Extends left behind := by
  have skipped := extends_skip_append m cs
  unfold readHex at h ⊢
  split at h
  · next rest start =>
    obtain ⟨⟨c, inner⟩, read, h⟩ := Option.map_eq_some_iff.mp h
    cases h
    obtain ⟨behind, again, onward⟩ := readBracedHex_append read
    refine ⟨behind, ?_, onward⟩
    rw [skip_append_of_cons start]
    simp only [again, Option.map_some]
  · next _ not_brace =>
    obtain ⟨⟨c, inner⟩, read, h⟩ := Option.map_eq_some_iff.mp h
    cases h
    obtain ⟨behind, again, onward⟩ := steady_readFixedHex m count skipped read
    refine ⟨behind, ?_, onward⟩
    split
    · next more start =>
      obtain ⟨rest, brace, -⟩ := (start ▸ skipped).eq_cons_of_ne (by decide)
      exact absurd brace (not_brace rest)
    · rw [again]
      rfl

/-- A property escape is read the same. -/
theorem readProperty_append {negated : Bool} {q : Primitive}
    (h : readProperty m negated cs = some (q, left)) :
    ∃ behind, readProperty m negated (cs ++ closing) = some (q, behind) ∧ Extends left behind := by
  unfold readProperty at h ⊢
  split at h
  · cases h
  · next rest start =>
    simp only [skip_append_of_cons start]
    split at h
    · next name inner run =>
      have inside : m.skip rest ≠ [] := by
        intro none
        rw [none] at run
        cases run
      obtain ⟨⟨set, outside⟩, property, h⟩ := Option.map_eq_some_iff.mp h
      cases h
      refine ⟨_, ?_, Or.inl rfl⟩
      rw [skip_append inside, gather_append run]
      simp only [property, Option.map_some]
    · cases h
  · next c rest not_brace start =>
    split at h
    · cases h
    · next plain =>
      obtain ⟨set, property, h⟩ := Option.map_eq_some_iff.mp h
      cases h
      refine ⟨_, ?_, extends_skip_append m rest⟩
      simp only [skip_append_of_cons start, property, if_neg plain, Option.map_some]

/-- A word boundary escape is read the same. -/
theorem steady_readBoundary (m : Mode) : Steady (readBoundary m) := by
  intro cs ds left x h hr
  unfold readBoundary at hr ⊢
  dsimp only at hr ⊢
  split at hr
  · next rest =>
    rw [h.eq_of_cons]
    split at hr
    · cases hr
    · next c inner start =>
      simp only [skip_append_of_cons start]
      split at hr
      · next other =>
        cases hr
        exact ⟨_, if_pos other, Or.inl rfl⟩
      · next named =>
        simp only [if_neg named]
        split at hr
        · next name behind run =>
          have onward := gather_append run
          rw [List.cons_append] at onward
          simp only [onward]
          split at hr
          all_goals first
            | cases hr
              exact ⟨_, rfl, Or.inl rfl⟩
            | cases hr
        · cases hr
  · next not_brace =>
    cases hr
    refine ⟨ds, ?_, h⟩
    split
    · obtain ⟨rest, brace, -⟩ := h.eq_cons_of_ne (by decide)
      exact absurd brace (not_brace rest)
    · rfl

/-- An escape is read the same. -/
theorem steady_readEscape (m : Mode) : Steady (readEscape m) := by
  refine Steady.of_append rfl ?_
  intro cs left q h
  cases cs with
  | nil => cases h
  | cons c rest =>
    have here {x : Primitive} {l : List Char} (eq : some (x, rest) = some (q, l)) :
        ∃ behind, some (x, rest ++ closing) = some (q, behind) ∧ Extends l behind := by
      cases eq
      exact ⟨_, rfl, Or.inl rfl⟩
    rw [List.cons_append]
    unfold readEscape at h ⊢
    dsimp only at h ⊢
    split at h
    · next escapable =>
      rw [if_pos escapable]
      exact here h
    · next letter =>
      rw [if_neg letter]
      split at h
      · exact readHex_append h
      · exact readHex_append h
      · exact readHex_append h
      · exact readProperty_append h
      · exact readProperty_append h
      all_goals first
        | exact here h
        | exact steady_readBoundary m (Or.inl rfl) h
        | cases h

/-- A count that ends inside the text is read the same. -/
theorem readCount_append {n : Nat} {c : Char} (h : readCount m cs = some (n, c :: left)) :
    readCount m (cs ++ closing) = some (n, c :: (left ++ closing)) := by
  unfold readCount at h ⊢
  have started : Text.trimStart cs ≠ [] := by
    intro none
    rw [none] at h
    cases h
  rw [trimStart_append started]
  cases run : gather m Char.isDigit (Text.trimStart cs) with
  | mk digits rest =>
    simp only [run] at h
    split at h
    · cases h
    · next valid =>
      obtain ⟨d, more, rfl⟩ := List.exists_cons_of_ne_nil (l := rest) fun none => by
        rw [none] at h
        split at h <;> cases h
      simp only [gather_append run, if_neg valid]
      split at h
      · next extended =>
        cases h
        exact congrArg some (Prod.ext rfl (if_pos extended))
      · next dense =>
        obtain ⟨rfl, behind⟩ := Prod.mk.inj (Option.some.inj h)
        have trimmed : Text.trimStart (d :: more) ≠ [] := behind ▸ List.cons_ne_nil c left
        rw [if_neg dense, ← List.cons_append, trimStart_append trimmed, behind, List.cons_append]

/-- A count behind what the mode skips is read the same. -/
theorem readCount_skip_append {n : Nat} {c : Char}
    (h : readCount m (m.skip cs) = some (n, c :: left)) :
    readCount m (m.skip (cs ++ closing)) = some (n, c :: (left ++ closing)) := by
  have started : m.skip cs ≠ [] := by
    intro none
    rw [none] at h
    cases h
  rw [skip_append started, readCount_append h]

/-- The bounds of a counted repetition are read the same. -/
theorem readBounds_append {least : Nat} {most : Option Nat}
    (h : readBounds m cs = some (least, most, left)) :
    ∃ behind, readBounds m (cs ++ closing) = some (least, most, behind) ∧ Extends left behind := by
  unfold readBounds at h ⊢
  obtain ⟨⟨n, rest⟩, first, h⟩ := Option.bind_eq_some_iff.mp h
  dsimp only at h
  split at h
  · next inner =>
    cases h
    rw [readCount_skip_append first]
    exact ⟨_, rfl, extends_skip_append m inner⟩
  · next inner =>
    simp only [readCount_skip_append first, Option.bind_eq_bind, Option.bind_some]
    split at h
    · next behind closed =>
      cases h
      rw [skip_append_of_cons closed]
      exact ⟨_, rfl, extends_skip_append m behind⟩
    · next unclosed =>
      obtain ⟨⟨upper, behind⟩, second, h⟩ := Option.bind_eq_some_iff.mp h
      split at h
      · next outer eq =>
        obtain ⟨rfl, rfl⟩ := Prod.mk.inj eq
        split at h
        · next ordered =>
          cases h
          refine ⟨_, ?_, extends_skip_append m outer⟩
          split
          · next brace =>
            obtain ⟨tail, start, -⟩ :=
              (brace ▸ extends_skip_append m inner).eq_cons_of_ne (by decide)
            exact absurd start (unclosed tail)
          · simp only [readCount_skip_append second, Option.bind_some, if_pos ordered]
            rfl
        · cases h
      · cases h
  · cases h

/-- The mark of a lazy repetition is read the same. -/
theorem readLazily_extends (h : Extends cs ds) :
    (readLazily ds).1 = (readLazily cs).1 ∧ Extends (readLazily cs).2 (readLazily ds).2 := by
  rcases h with rfl | ⟨rfl, rfl⟩
  · fun_cases readLazily cs
    · exact ⟨rfl, Or.inl rfl⟩
    · next not_mark =>
      rw [readLazily.eq_2 _ (append_closing_ne ['?'] (by decide) not_mark)]
      exact ⟨rfl, Or.inl rfl⟩
  · exact ⟨rfl, Or.inr ⟨rfl, rfl⟩⟩

/-- The name of a group is read the same. -/
theorem readGroupName_append {name : List Char} (h : readGroupName cs = some (name, left)) :
    readGroupName (cs ++ closing) = some (name, left ++ closing) := by
  unfold readGroupName at h ⊢
  split at h
  · next c later d rest cut =>
    rw [span_append cut]
    split at h
    · next legal =>
      cases h
      exact if_pos legal
    · cases h
  · cases h

/-- Flags are read the same. -/
theorem readFlags_append {opening : Opening} (h : readFlags cs = some (opening, left)) :
    readFlags (cs ++ closing) = some (opening, left ++ closing) := by
  unfold readFlags at h ⊢
  split at h
  · next flags inner cut =>
    simp only [span_append cut]
    split at h
    · next legal =>
      cases h
      exact if_pos legal
    · cases h
  · next flags inner cut =>
    simp only [span_append cut]
    split at h
    · next legal =>
      cases h
      exact if_pos legal
    · cases h
  · cases h

/-- The kind of a group is read the same. -/
theorem readKind_append {opening : Opening} (h : readKind cs = some (opening, left)) :
    readKind (cs ++ closing) = some (opening, left ++ closing) := by
  have named {rest : List Char}
      (h : ((readGroupName rest).map fun r => (Opening.capture (some r.1), r.2)) =
        some (opening, left)) :
      ((readGroupName (rest ++ closing)).map fun r => (Opening.capture (some r.1), r.2)) =
        some (opening, left ++ closing) := by
    obtain ⟨⟨name, inner⟩, read, h⟩ := Option.map_eq_some_iff.mp h
    cases h
    rw [readGroupName_append read]
    rfl
  unfold readKind at h
  split at h
  iterate 4 cases h
  · exact named h
  · next rest not_equal not_mark =>
    rw [List.cons_append, readKind.eq_6 _ (append_closing_ne ['='] (by decide) not_equal)
      (append_closing_ne ['!'] (by decide) not_mark)]
    exact named h
  · next not_equal not_mark not_behind not_before not_named not_bare =>
    rw [readKind.eq_7 _ (append_closing_ne ['='] (by decide) not_equal)
      (append_closing_ne ['!'] (by decide) not_mark)
      (append_closing_ne ['<', '='] (by decide) not_behind)
      (append_closing_ne ['<', '!'] (by decide) not_before)
      (append_closing_ne ['P', '<'] (by decide) not_named)
      (append_closing_ne ['<'] (by decide) not_bare)]
    exact readFlags_append h

/-- The opening of a group is read the same. -/
theorem readOpening_extends {opening : Opening} (h : Extends cs ds)
    (hr : readOpening m cs = some (opening, left)) :
    ∃ behind, readOpening m ds = some (opening, behind) ∧ Extends left behind := by
  have skipped := h.skip m
  unfold readOpening at hr ⊢
  split at hr
  · next rest start =>
    rw [start] at skipped
    rw [skipped.eq_of_cons]
    exact ⟨_, readKind_append hr, Or.inl rfl⟩
  · next unmarked =>
    cases hr
    refine ⟨m.skip ds, ?_, skipped⟩
    split
    · next rest start =>
      obtain ⟨more, mark, -⟩ := (start ▸ skipped).eq_cons_of_ne (by decide)
      exact absurd mark (unmarked more)
    · rfl

end SelectorGuard.Pattern
