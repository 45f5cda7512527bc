import SelectorGuard.Text.Blank

/-!
# Label names and metric names

Label names stand unquoted in query text, so only names that cannot be mistaken for anything else
are legal: an ASCII letter or underscore, then ASCII letters, digits and underscores. Metric names
admit the colon as well.
-/

namespace SelectorGuard.Label

/-- First characters of a label name. -/
def isNameStart (c : Char) : Bool :=
  c.isAlpha || c == '_'

/-- Later characters of a label name. -/
def isNameRest (c : Char) : Bool :=
  c.isAlphanum || c == '_'

/-- A legal label name starts with a letter or underscore and goes on with those and digits. -/
def isName (name : String) : Bool :=
  match name.toList with
  | [] => false
  | c :: rest => isNameStart c && rest.all isNameRest

/-- A legal metric name is like a label name but may hold colons anywhere. -/
def isMetricName (name : String) : Bool :=
  match name.toList with
  | [] => false
  | c :: rest => (isNameStart c || c == ':') && rest.all fun d => isNameRest d || d == ':'

/-- Every label name may serve as a metric name. -/
theorem isMetricName_of_isName {name : String} (h : isName name = true) :
    isMetricName name = true := by
  unfold isName at h
  unfold isMetricName
  split at h
  · exact h
  · simp only [Bool.and_eq_true, List.all_eq_true, Bool.or_eq_true] at h ⊢
    exact ⟨Or.inl h.1, fun d hd => Or.inl (h.2 d hd)⟩

/-- The first character of a label name is not blank. -/
theorem isBlank_of_isNameStart {c : Char} (h : isNameStart c = true) : Text.isBlank c = false := by
  rw [Bool.eq_false_iff]
  intro blank
  simp only [Text.isBlank, Text.blankRanges, List.any_cons, List.any_nil, Bool.or_eq_true,
    Bool.and_eq_true, decide_eq_true_eq, Bool.false_eq_true, or_false] at blank
  have start : (c.isUpper || c.isLower || c == '_') = true := h
  rw [Bool.or_eq_true, Bool.or_eq_true, beq_iff_eq] at start
  rcases start with (upper | lower) | rfl
  · have range : 65 ≤ c.toNat ∧ c.toNat ≤ 90 := of_decide_eq_true upper
    omega
  · have range : 97 ≤ c.toNat ∧ c.toNat ≤ 122 :=
      ((Bool.and_eq_true _ _).mp lower).imp of_decide_eq_true of_decide_eq_true
    omega
  · revert blank
    decide

end SelectorGuard.Label
