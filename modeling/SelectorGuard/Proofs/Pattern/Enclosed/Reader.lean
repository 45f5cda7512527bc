import SelectorGuard.Pattern.Anchored
import SelectorGuard.Proofs.Pattern.Enclosed.Bracket

/-!
# Reading a pattern between anchors

A pattern that is well formed on its own is read the same between anchors, where it becomes the body
of a group. There the reader has one more level below those that it has on its own. Unless a comment
swallows what closes the group, the anchored pattern is the start of the text, the group and the end
of the text.
-/

namespace SelectorGuard.Pattern

variable {cs ds left : List Char}

/-- What has been read, within one more level around all others. -/
def Progress.within (base : Level) (s : Progress) : Progress :=
  { s with outer := s.outer ++ [base] }

/-- A step does the same within one more level, whatever stands behind the text. -/
theorem step_within {n k : Nat} {s t : Progress} {c : Char} (base : Level) (enough : n ≤ k)
    (h : step n s c cs = some (t, left)) :
    ∃ behind, step k (s.within base) c (cs ++ closing) = some (t.within base, behind) ∧
      Extends left behind := by
  have repeated {least : Nat} {most : Option Nat} {es fs : List Char} (ext : Extends es fs)
      (h : s.repeatLast least most es = some (t, left)) :
      ∃ behind, (s.within base).repeatLast least most fs = some (t.within base, behind) ∧
        Extends left behind := by
    obtain ⟨level, again, h⟩ := Option.bind_eq_some_iff.mp h
    have again : s.level.repeatLast least most (readLazily es).1 = some level := again
    obtain ⟨lazily, extended⟩ := readLazily_extends ext
    cases h
    refine ⟨(readLazily fs).2, ?_, extended⟩
    simp only [Progress.repeatLast, Progress.within, lazily, again, Option.bind_eq_bind,
      Option.bind_some]
    rfl
  unfold step at h
  dsimp only at h
  split at h
  · obtain ⟨⟨opening, behind⟩, read, h⟩ := Option.bind_eq_some_iff.mp h
    obtain ⟨onward, again, extended⟩ := readOpening_extends (Or.inl rfl) read
    simp only [step, Progress.within, again, Option.bind_eq_bind, Option.bind_some]
    rcases opening with (_ | name) | flags | flags
    · cases h
      exact ⟨onward, rfl, extended⟩
    · dsimp only at h ⊢
      split at h
      · cases h
      · next fresh =>
        cases h
        exact ⟨onward, if_neg fresh, extended⟩
    · cases h
      exact ⟨onward, rfl, extended⟩
    · cases h
      exact ⟨onward, rfl, extended⟩
  · split at h
    · cases h
    · next parent others outer =>
      cases h
      simp only [step, Progress.within, outer, List.cons_append]
      exact ⟨_, rfl, Or.inl rfl⟩
  · cases h
    exact ⟨_, rfl, Or.inl rfl⟩
  · obtain ⟨⟨b, inner⟩, opened, h⟩ := Option.bind_eq_some_iff.mp h
    obtain ⟨⟨operand, behind⟩, read, h⟩ := Option.bind_eq_some_iff.mp h
    have onward := readBracket_append (k := k + 1) (Or.inl rfl) (by omega) read
    cases h
    simp only [step, Progress.within, openBracket_append opened, onward, Option.bind_eq_bind,
      Option.bind_some]
    exact ⟨_, rfl, Or.inl rfl⟩
  · exact repeated (Or.inl rfl) h
  · exact repeated (Or.inl rfl) h
  · exact repeated (Or.inl rfl) h
  · obtain ⟨⟨least, most, behind⟩, read, h⟩ := Option.bind_eq_some_iff.mp h
    obtain ⟨onward, again, extended⟩ := readBounds_append read
    have counted := repeated extended h
    simp only [step, Progress.within, again, Option.bind_eq_bind, Option.bind_some] at counted ⊢
    exact counted
  · obtain ⟨set, dot, h⟩ := Option.bind_eq_some_iff.mp h
    cases h
    simp only [step, Progress.within, dot, Option.bind_eq_bind, Option.bind_some]
    exact ⟨_, rfl, Or.inl rfl⟩
  · cases h
    exact ⟨_, rfl, Or.inl rfl⟩
  · cases h
    exact ⟨_, rfl, Or.inl rfl⟩
  · obtain ⟨⟨primitive, behind⟩, read, h⟩ := Option.bind_eq_some_iff.mp h
    obtain ⟨onward, again, extended⟩ := steady_readEscape _ (Or.inl rfl) read
    obtain ⟨p, meaning, h⟩ := Option.bind_eq_some_iff.mp h
    cases h
    simp only [step, Progress.within, again, meaning, Option.bind_eq_bind, Option.bind_some]
    exact ⟨onward, rfl, extended⟩
  · obtain ⟨p, meaning, h⟩ := Option.bind_eq_some_iff.mp h
    cases h
    refine ⟨cs ++ closing, ?_, Or.inl rfl⟩
    unfold step
    dsimp only
    split
    iterate 12 contradiction
    rw [Progress.within, meaning]
    rfl

/-- The level around the group of an anchored pattern, once the start of the text has been read. -/
def anchoredLevel : Level :=
  (Level.start {} false).add (.piece (.anchor .textStart) 0)

/-- The pattern that an anchored pattern becomes. -/
def between (remembered : Bool) (p : Pattern) : Pattern :=
  .seq (.anchor .textStart) (.seq (.group remembered p) (.anchor .textEnd))

/-- At the end of what is read on its own, the group is closed and the end of the text follows,
unless a comment has swallowed both. -/
theorem readParts_closing {k : Nat} {s : Progress} (root : s.outer = [])
    (skipped : Extends [] (s.level.mode.skip ds)) :
    readParts (k + 2) (s.within anchoredLevel) ds = none ∨
      ∃ remembered depth, readParts (k + 2) (s.within anchoredLevel) ds =
        some (between remembered s.level.whole.1, depth) := by
  have levels : (s.within anchoredLevel).outer = [anchoredLevel] := by
    rw [Progress.within, root, List.nil_append]
  have mode : (s.within anchoredLevel).level.mode = s.level.mode := rfl
  rcases skipped with closed | ⟨-, swallowed⟩
  · refine Or.inr ⟨s.level.capturing, ?_⟩
    have group : step (k + 1) (s.within anchoredLevel) ')' ['$'] =
        some (⟨anchoredLevel.add s.level.close, [], s.names⟩, ['$']) := by
      simp only [step, levels]
      rfl
    have last : readParts (k + 1) ⟨anchoredLevel.add s.level.close, [], s.names⟩ ['$'] =
        some ((anchoredLevel.add s.level.close).add (.piece (.anchor .textEnd) 0)).whole := by
      have final : step k ⟨anchoredLevel.add s.level.close, [], s.names⟩ '$' [] =
          some (⟨(anchoredLevel.add s.level.close).add (.piece (.anchor .textEnd) 0), [], s.names⟩,
            []) := rfl
      have here (es : List Char) : (anchoredLevel.add s.level.close).mode.skip es = es := rfl
      rw [readParts, here]
      simp only [final, Option.bind_eq_bind, Option.bind_some]
      rw [readParts]
      rfl
    rw [readParts, mode, closed]
    simp only [closing, List.nil_append, group, Option.bind_eq_bind, Option.bind_some, last]
    exact ⟨_, rfl⟩
  · refine Or.inl ?_
    rw [readParts, mode, swallowed, levels]
    rfl

/-- What is read on its own is read as the body of a group between anchors, or not at all. -/
theorem Reads.within {n k : Nat} {s : Progress} {r : Pattern × Nat} (h : Reads r n s cs)
    (ext : Extends cs ds) (enough : n ≤ k) :
    readParts (k + 2) (s.within anchoredLevel) ds = none ∨
      ∃ remembered depth, readParts (k + 2) (s.within anchoredLevel) ds =
        some (between remembered r.1, depth) := by
  induction h generalizing ds k with
  | @finish n s cs finished root whole =>
    have skipped := ext.skip s.level.mode
    rw [finished] at skipped
    rw [← whole]
    exact readParts_closing root skipped
  | @onward n s t cs rest left c start moved more ih =>
    have skipped := ext.skip s.level.mode
    rw [start] at skipped
    obtain ⟨k, rfl⟩ : ∃ l, k = l + 1 := ⟨k - 1, by omega⟩
    obtain ⟨behind, step_again, extended⟩ :=
      step_within (k := k + 2) anchoredLevel (by omega) moved
    have again : readParts (k + 1 + 2) (s.within anchoredLevel) ds =
        readParts (k + 2) (t.within anchoredLevel) behind := by
      have mode : (s.within anchoredLevel).level.mode = s.level.mode := rfl
      rw [readParts, mode, skipped.eq_of_cons]
      simp only [step_again, Option.bind_eq_bind, Option.bind_some]
    rw [again]
    exact ih extended (by omega)

/-- A text that spells a pattern on its own spells the anchored pattern between anchors, if it
spells any there. -/
theorem parse?_wrap {q p : Pattern} (alone : parse? cs = some q)
    (anchored : parse? (wrap cs) = some p) : ∃ remembered, p = between remembered q := by
  obtain ⟨⟨body, depth⟩, read, alone⟩ := Option.bind_eq_some_iff.mp alone
  obtain ⟨⟨whole, depth'⟩, opened, anchored⟩ := Option.bind_eq_some_iff.mp anchored
  dsimp only at alone anchored
  split at alone
  · split at anchored
    · cases alone
      cases anchored
      have start : readParts (wrap cs).length ⟨Level.start {} false, [], []⟩ (wrap cs) =
          readParts (cs.length + 4) (Progress.within anchoredLevel ⟨Level.start {} false, [], []⟩)
            (cs ++ closing) := by
        have length : (wrap cs).length = cs.length + 4 + 2 := by
          simp [wrap]
        rw [length]
        rfl
      rw [start] at opened
      rcases (reads_of_readParts read).within (k := cs.length + 2) (Or.inl rfl) (by omega) with
        lost | ⟨remembered, depth, enclosed⟩
      · rw [lost] at opened
        cases opened
      · rw [enclosed] at opened
        exact ⟨remembered, (Prod.mk.inj (Option.some.inj opened)).1.symm⟩
    · cases anchored
  · cases alone

end SelectorGuard.Pattern
