import SelectorGuard.Matcher
import SelectorGuard.Proofs.Pattern.Bounds
import SelectorGuard.Proofs.Pattern.Enclosed.Reader

/-!
# What anchoring achieves

A matcher with a pattern searches a value for the pattern between anchors. If the pattern is well
formed on its own, it has to match the whole value. The group around the pattern is made of text,
though, and a pattern that is not well formed on its own can close it.
-/

namespace SelectorGuard

namespace Pattern

variable {text : List Char}

/-- A pattern matches the whole of a text. -/
def MatchesWhole (p : Pattern) (text : List Char) : Prop :=
  Matches text p 0 text.length

/-- Only at the first place nothing stands before. -/
theorem eq_zero_of_textStart {i : Nat} (inside : i ≤ text.length)
    (h : Anchor.textStart.holds (before text i) text[i]? = true) : i = 0 := by
  by_contra positive
  have there : i - 1 < text.length := by omega
  rw [before, if_neg positive, List.getElem?_eq_getElem there] at h
  cases h

/-- Only at the last place nothing stands after. -/
theorem eq_length_of_textEnd {i : Nat} (inside : i ≤ text.length)
    (h : Anchor.textEnd.holds (before text i) text[i]? = true) : i = text.length := by
  by_contra earlier
  have there : i < text.length := by omega
  rw [List.getElem?_eq_getElem there] at h
  cases h

/-- A pattern between anchors occurs in a text just if it matches the whole of it. -/
theorem occurs_between_iff {remembered : Bool} {p : Pattern} :
    (between remembered p).Occurs text ↔ p.MatchesWhole text := by
  constructor
  · rintro ⟨i, j, matched⟩
    cases matched with
    | seq first rest =>
      cases first with
      | anchor first_inside starts =>
        cases rest with
        | seq body last =>
          cases body with
          | group body =>
            cases last with
            | anchor last_inside ends =>
              obtain rfl := eq_zero_of_textStart first_inside starts
              obtain rfl := eq_length_of_textEnd last_inside ends
              exact body
  · intro whole
    have starts : Matches text (.anchor .textStart) 0 0 := .anchor (Nat.zero_le _) rfl
    have ends : Matches text (.anchor .textEnd) text.length text.length := by
      refine .anchor (Nat.le_refl _) ?_
      rw [List.getElem?_eq_none (Nat.le_refl _)]
      rfl
    exact ⟨0, text.length, .seq starts (.seq (.group whole) ends)⟩

/-- A pattern that is well formed on its own, and that can be anchored, accepts the values that it
matches from the first to the last character. -/
theorem accepts_iff_matchesWhole {source : String} {q : Pattern}
    (alone : parse? source.toList = some q) (anchorable : isAnchorable source = true)
    (value : String) : accepts source value = true ↔ q.MatchesWhole value.toList := by
  obtain ⟨p, anchored⟩ := Option.isSome_iff_exists.mp anchorable
  have parsed := parse?_of_read? anchored
  obtain ⟨remembered, rfl⟩ := parse?_wrap alone parsed
  rw [accepts_of_anchored? anchored, occursIn_iff (hasBounds_of_parse? parsed), occurs_between_iff]

end Pattern

namespace Matcher

/-- A matcher whose pattern is well formed on its own accepts a value just if the pattern matches
the whole of it, from the first to the last character; the negated kind accepts a value just if it
does not. -/
theorem accepts_iff_of_well_formed (m : Matcher) {q : Pattern}
    (alone : Pattern.parse? m.value.toList = some q) (value : String) :
    (m.kind = .regexMatch → (m.accepts value = true ↔ q.MatchesWhole value.toList)) ∧
      (m.kind = .regexNoMatch → (m.accepts value = true ↔ ¬ q.MatchesWhole value.toList)) := by
  constructor
  · intro kind
    have anchorable := m.value_spells (by rw [kind]; rfl)
    have whole := Pattern.accepts_iff_matchesWhole alone anchorable value
    simp only [accepts, kind, whole]
  · intro kind
    have anchorable := m.value_spells (by rw [kind]; rfl)
    have whole := Pattern.accepts_iff_matchesWhole alone anchorable value
    simp only [accepts, kind, Bool.not_eq_true', ← whole, Bool.not_eq_true]

/-- Both alternatives of a pattern stay between the anchors. -/
theorem accepts_iff_of_alternatives :
    ∃ m q, make .regexMatch "env" "dev|test" = .ok m ∧ Pattern.parse? m.value.toList = some q ∧
      q.MatchesWhole "test".toList ∧ ¬ q.MatchesWhole "tests".toList ∧
      ¬ q.MatchesWhole "adev".toList := by
  have anchorable : Pattern.isAnchorable "dev|test" = true := by decide +kernel
  have spelled : (Pattern.parse? "dev|test".toList).isSome = true := by decide +kernel
  have within : Pattern.accepts "dev|test" "test" = true := by decide +kernel
  have behind : Pattern.accepts "dev|test" "tests" = false := by decide +kernel
  have before : Pattern.accepts "dev|test" "adev" = false := by decide +kernel
  obtain ⟨q, alone⟩ := Option.isSome_iff_exists.mp spelled
  let m : Matcher := ⟨"env", .regexMatch, "dev|test", by decide, fun _ => anchorable⟩
  have whole (value : String) := (accepts_iff_of_well_formed m alone value).1 rfl
  exact ⟨m, q, make_self m, alone, (whole "test").mp within,
    mt (whole "tests").mpr (ne_true_of_eq_false behind),
    mt (whole "adev").mpr (ne_true_of_eq_false before)⟩

/-- A pattern that closes the group around it and opens another one is not well formed on its own,
but it makes a matcher, and each of its alternatives has lost an anchor. -/
theorem make_accepts_unbalanced :
    ∃ m, make .regexMatch "env" "a)|(b" = .ok m ∧ Pattern.parse? m.value.toList = none ∧
      m.accepts "ax" = true ∧ m.accepts "xb" = true := by
  have anchorable : Pattern.isAnchorable "a)|(b" = true := by decide +kernel
  have alone : Pattern.parse? "a)|(b".toList = none := by decide +kernel
  have start : Pattern.accepts "a)|(b" "ax" = true := by decide +kernel
  have behind : Pattern.accepts "a)|(b" "xb" = true := by decide +kernel
  let m : Matcher := ⟨"env", .regexMatch, "a)|(b", by decide, fun _ => anchorable⟩
  exact ⟨m, make_self m, alone, start, behind⟩

end Matcher

end SelectorGuard
