import SelectorGuard.Matcher
import SelectorGuard.Proofs.Text.Quoted
import SelectorGuard.Proofs.Traversal

/-!
# Canonical forms identify matchers

No operator starts with a character of a label name, and no operator before a quote is the start of
another one, so a canonical form falls apart in one way into label, comparison and literal. Matchers
can therefore be compared by their canonical forms instead of by their parts.
-/

namespace SelectorGuard

namespace Label

/-- If what may stand at the start of a name may stand in it, all its characters may. -/
theorem forall_mem_of_start {start goesOn : Char → Bool} {first : Char} {rest : List Char}
    (starts : ∀ {c}, start c = true → goesOn c = true)
    (h : (start first && rest.all goesOn) = true) : ∀ c ∈ first :: rest, goesOn c = true := by
  rw [Bool.and_eq_true, List.all_eq_true] at h
  exact List.forall_mem_cons.mpr ⟨starts h.1, h.2⟩

/-- A character that may start a label name may go on it. -/
theorem isNameRest_of_isNameStart {c : Char} (h : isNameStart c = true) : isNameRest c = true := by
  simp only [isNameStart, isNameRest, Char.isAlphanum, Bool.or_eq_true] at h ⊢
  exact h.imp_left .inl

/-- A legal label name consists of name characters. -/
theorem isNameRest_of_mem {name : String} (h : isName name = true) {c : Char}
    (hc : c ∈ name.toList) : isNameRest c = true := by
  unfold isName at h
  split at h
  · cases h
  · next first rest heq =>
    rw [heq] at hc
    exact forall_mem_of_start @isNameRest_of_isNameStart h c hc

/-- The characters of a metric name, its first one apart. -/
def isMetricRest (c : Char) : Bool :=
  isNameRest c || c == ':'

/-- A legal metric name consists of the characters of metric names. -/
theorem isMetricRest_of_mem {name : String} (h : isMetricName name = true) {c : Char}
    (hc : c ∈ name.toList) : isMetricRest c = true := by
  unfold isMetricName at h
  split at h
  · cases h
  · next first rest heq =>
    rw [heq] at hc
    refine @forall_mem_of_start (fun d => isNameStart d || d == ':') _ _ _ ?_ h c hc
    intro d starts
    rw [Bool.or_eq_true] at starts ⊢
    exact starts.imp_left isNameRest_of_isNameStart

end Label

namespace MatchKind

/-- An operator starts with no name character. -/
theorem takeWhile_token_append (kind : MatchKind) (rest : List Char) :
    (kind.token.toList ++ rest).takeWhile Label.isNameRest = [] := by
  cases kind <;> rfl

/-- An operator, the literal after it and the continuation are determined by their text. -/
theorem token_append_encode_inj {kind other : MatchKind} {cs ds tail rest : List Char}
    (h : kind.token.toList ++ (Text.Quoted.encode cs ++ tail) =
      other.token.toList ++ (Text.Quoted.encode ds ++ rest)) :
    kind = other ∧ cs = ds ∧ tail = rest := by
  have kinds : kind = other := by
    cases kind <;> cases other <;> first | rfl | simp [token, Text.Quoted.encode] at h
  subst kinds
  exact ⟨rfl, Text.Quoted.encode_append_inj (List.append_cancel_left h)⟩

end MatchKind

namespace Matcher

/-- The matcher that restricts a label to one value. -/
def equalTo (name value : String) (legal : Label.isName name = true) : Matcher :=
  ⟨name, .equal, value, legal, nofun⟩

/-- What a matcher is made from: a comparison, a label name and an operand. -/
abbrev Parts :=
  MatchKind × String × String

/-- What tells matchers apart: the parts that they are made from. -/
def identity (m : Matcher) : Parts :=
  (m.kind, m.name, m.value)

/-- Matchers with the same parts are the same matcher. -/
theorem identity_inj {m n : Matcher} : m.identity = n.identity ↔ m = n := by
  constructor
  · intro h
    cases m
    cases n
    simp only [identity, Prod.mk.injEq] at h
    obtain ⟨rfl, rfl, rfl⟩ := h
    rfl
  · intro h
    rw [h]

/-- A text that starts with the canonical form of a matcher determines the matcher and how it goes
on. -/
theorem chars_append_inj {m n : Matcher} {tail rest : List Char}
    (h : m.chars ++ tail = n.chars ++ rest) : m = n ∧ tail = rest := by
  simp only [chars, List.append_assoc] at h
  have split := run_append_inj (fun _ => Label.isNameRest_of_mem m.name_legal)
    (fun _ => Label.isNameRest_of_mem n.name_legal)
    (m.kind.takeWhile_token_append _) (n.kind.takeWhile_token_append _) h
  have names : m.name = n.name := String.toList_inj.mp split.1
  obtain ⟨kinds, texts, continuations⟩ := MatchKind.token_append_encode_inj split.2
  have values : m.value = n.value := String.toList_inj.mp texts
  have parts : m.identity = n.identity := by rw [identity, identity, kinds, names, values]
  exact ⟨identity_inj.mp parts, continuations⟩

/-- Matchers have the same canonical form just if they have the same parts. -/
theorem canonical_eq_iff {m n : Matcher} : m.canonical = n.canonical ↔ m.identity = n.identity := by
  rw [identity_inj]
  constructor
  · intro h
    have texts : m.chars ++ [] = n.chars ++ [] := congrArg (· ++ []) (String.ofList_injective h)
    exact (chars_append_inj texts).1
  · rintro rfl
    rfl

end Matcher

end SelectorGuard
