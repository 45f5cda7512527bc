import SelectorGuard.Proofs.Decimal.Numeral
import SelectorGuard.Proofs.Matcher.Canonical
import SelectorGuard.Proofs.Query.Sites
import SelectorGuard.Proofs.Text.Scan
import SelectorGuard.Query.Render
import Mathlib.Data.List.Basic

/-!
# The brackets of query text

Every text of an expression is written as a bare name, which holds no quote and no bracket, or as a
literal, which hides what it denotes from the scanner. So the brackets that the scanner meets are
those that the expression is built with: texts cannot open, close or add one.
-/

namespace SelectorGuard

open Text (Scan Nested isBracket)
open Text.Scan (Quiet)

/-! ### Parts without brackets -/

/-- A character of a metric name is neither a quote nor a bracket. -/
theorem Label.not_special_of_isMetricRest {c : Char} (h : isMetricRest c = true) :
    c ≠ '"' ∧ isBracket c = false := by
  constructor
  · rintro rfl
    cases h
  · rw [Bool.eq_false_iff]
    intro bracket
    simp only [isBracket, List.contains_eq_mem, List.mem_cons, List.not_mem_nil, or_false,
      decide_eq_true_eq] at bracket
    rcases bracket with rfl | rfl | rfl | rfl | rfl | rfl <;> cases h

/-- A legal metric name shows no bracket. -/
theorem Label.quiet_of_isMetricName {name : String} (h : isMetricName name = true) :
    Quiet name.toList :=
  Quiet.of_forall fun _ hc => not_special_of_isMetricRest (isMetricRest_of_mem h hc)

/-- A name shows no bracket, be it legal or not. -/
theorem quiet_nameChars (name : String) : Quiet (nameChars name) := by
  unfold nameChars
  split
  · next h => exact Label.quiet_of_isMetricName (Label.isMetricName_of_isName h)
  · exact Scan.quiet_encode _

/-- A matcher shows no bracket. -/
theorem Matcher.quiet_chars (m : Matcher) : Quiet m.chars := by
  have name := Label.quiet_of_isMetricName (Label.isMetricName_of_isName m.name_legal)
  have token : Quiet m.kind.token.toList := by cases m.kind <;> decide
  exact (name.append token).append (Scan.quiet_encode _)

/-- Texts without brackets show none with commas between them. -/
theorem quiet_commaSeparated {texts : List (List Char)} (h : ∀ cs ∈ texts, Quiet cs) :
    Quiet (commaSeparated texts) := by
  induction texts with
  | nil => decide
  | cons first rest ih =>
    have head := h first List.mem_cons_self
    have tail := ih fun cs hcs => h cs (List.mem_cons_of_mem first hcs)
    cases rest with
    | nil => exact head
    | cons second more => exact (head.append (by decide : Quiet [',', ' '])).append tail

/-- Digits show no bracket. -/
theorem quiet_of_digits {cs : List Char} (h : ∀ c ∈ cs, c.isDigit = true) : Quiet cs := by
  refine Quiet.of_forall fun c hc => Label.not_special_of_isMetricRest ?_
  simp only [Label.isMetricRest, Label.isNameRest, Char.isAlphanum, h c hc, Bool.or_true,
    Bool.true_or]

/-- Texts without brackets show none one after the other. -/
theorem quiet_flatMap {α : Type} {f : α → List Char} {xs : List α} (h : ∀ x ∈ xs, Quiet (f x)) :
    Quiet (xs.flatMap f) := by
  induction xs with
  | nil => exact ⟨rfl, rfl⟩
  | cons x rest ih =>
    rw [List.flatMap_cons]
    exact (h x List.mem_cons_self).append (ih fun y hy => h y (List.mem_cons_of_mem x hy))

/-- The units of components are among those that the time is split into. -/
theorem Duration.unit_mem_of_mem_split {ms : Nat} {units : List (String × Nat)} {c : Nat × String}
    (h : c ∈ split ms units) : c.2 ∈ units.map Prod.fst := by
  induction units generalizing ms with
  | nil => cases h
  | cons unit rest ih =>
    rw [split] at h
    split at h
    · rcases List.mem_cons.mp h with rfl | h
      · exact List.mem_cons_self
      · exact List.mem_cons_of_mem _ (ih h)
    · exact List.mem_cons_of_mem _ (ih h)

/-- A duration shows no bracket. -/
theorem Duration.quiet_chars (d : Duration) : Quiet d.chars := by
  have names : ∀ unit ∈ units.map Prod.fst, Quiet unit.toList := by decide
  unfold chars
  split
  · decide
  · refine quiet_flatMap fun c hc => ?_
    have count : Quiet (Nat.toDigits 10 c.1) :=
      quiet_of_digits fun _ => Nat.isDigit_of_mem_toDigits (by decide) (by decide)
    exact count.append (names c.2 (unit_mem_of_mem_split hc))

/-- An offset shows no bracket. -/
theorem quiet_offsetChars (offset : Option Duration) : Quiet (offsetChars offset) := by
  cases offset with
  | none => decide
  | some d => exact (by decide : Quiet " offset ".toList).append d.quiet_chars

/-- A number shows no bracket. -/
theorem Decimal.quiet_queryChars (x : Float) : Quiet (queryChars x) := by
  unfold queryChars
  split
  · decide
  · split <;> decide
  · next m e _ =>
    have digits : ∀ c, c ∈ (if m = 0 then ([], []) else (shortest true m e).positional).1 ∨
        c ∈ (if m = 0 then ([], []) else (shortest true m e).positional).2 → c.isDigit = true := by
      intro c hc
      split at hc
      · rcases hc with hc | hc <;> cases hc
      · exact Scaled.isDigit_of_mem_positional _ hc
    generalize (if m = 0 then ([], []) else (shortest true m e).positional) = parts at digits
    obtain ⟨whole, fraction⟩ := parts
    have sign : Quiet (if isNegative x then ['-'] else []) := by split <;> decide
    have before : Quiet (if whole.isEmpty then ['0'] else whole) := by
      split
      · decide
      · exact quiet_of_digits fun c hc => digits c (Or.inl hc)
    have behind : Quiet (if fraction.isEmpty then [] else '.' :: fraction) := by
      split
      · decide
      · exact (by decide : Quiet ['.']).append
          (quiet_of_digits fun c hc => digits c (Or.inr hc))
    exact (sign.append before).append behind

/-- The keyword of an aggregation shows no bracket. -/
theorem Aggregator.quiet_keyword (op : Aggregator) : Quiet op.keyword.toList := by
  cases op <;> decide

/-- A binary operator shows no bracket. -/
theorem BinaryOperator.quiet_token (op : BinaryOperator) : Quiet op.token.toList := by
  cases op <;> decide

/-- A sign shows no bracket. -/
theorem UnaryOperator.quiet_token (op : UnaryOperator) : Quiet op.token.toList := by
  cases op <;> decide

/-! ### Parts with brackets -/

/-- Label names show the parentheses around them. -/
theorem labelListChars_eq (labels : List String) :
    ∃ inner, Quiet inner ∧ labelListChars labels = '(' :: inner ++ [')'] := by
  refine ⟨commaSeparated (labels.map nameChars), quiet_commaSeparated ?_, rfl⟩
  intro cs hcs
  obtain ⟨name, -, rfl⟩ := List.mem_map.mp hcs
  exact quiet_nameChars name

/-- A selector with matchers shows its braces. All matchers stand between them, with a constraint on
the metric name in front if the name is not legal. -/
theorem Selector.bodyChars_eq {s : Selector} (h : s.matchers ≠ []) :
    ∃ front first, Quiet front ∧ (∀ cs ∈ first ++ s.matchers.map Matcher.chars, Quiet cs) ∧
      s.bodyChars =
        front ++ ('{' :: commaSeparated (first ++ s.matchers.map Matcher.chars) ++ ['}']) := by
  have constraints {first : List (List Char)} (h : ∀ cs ∈ first, Quiet cs) :
      ∀ cs ∈ first ++ s.matchers.map Matcher.chars, Quiet cs := by
    intro cs hcs
    rcases List.mem_append.mp hcs with hcs | hcs
    · exact h cs hcs
    · obtain ⟨m, -, rfl⟩ := List.mem_map.mp hcs
      exact m.quiet_chars
  unfold bodyChars
  split
  · exact ⟨[], [], by decide, constraints nofun, rfl⟩
  · next name _ =>
    by_cases legal : Label.isMetricName name = true
    · have filled : s.matchers.isEmpty = false := by rwa [List.isEmpty_eq_false_iff]
      refine ⟨name.toList, [], Label.quiet_of_isMetricName legal, constraints nofun, ?_⟩
      rw [if_pos legal, filled]
      simp
    · refine ⟨[], ["__name__=".toList ++ Text.Quoted.encode name.toList], by decide,
        constraints ?_, ?_⟩
      · intro cs hcs
        rw [List.mem_singleton.mp hcs]
        exact (by decide : Quiet "__name__=".toList).append (Scan.quiet_encode _)
      · rw [if_neg legal]
        rfl

/-! ### The parts of an expression -/

namespace Expr

/-- An aggregation is its keyword and clause before the parentheses. -/
theorem chars_aggregate (op : Aggregator) (body : Expr) (param : Option Expr)
    (grouping : List String) (without : Bool) :
    chars (aggregate op body param grouping without) =
      op.keyword.toList ++ (groupingChars grouping without ++
        ('(' :: (paramChars param ++ chars body) ++ [')'])) := by
  simp only [chars, List.append_assoc, List.cons_append]

/-- What stands between the two sides of an operation, the matching apart. -/
def operatorChars (op : BinaryOperator) (returnBool : Bool) : List Char :=
  ' ' :: op.token.toList ++ if returnBool then " bool".toList else []

/-- An operation is its operator and clauses between the two sides. -/
theorem chars_binary (op : BinaryOperator) (lhs rhs : Expr) (returnBool : Bool)
    (matching : Option VectorMatching) :
    chars (binary op lhs rhs returnBool matching) =
      chars lhs ++ (operatorChars op returnBool ++ (matchingChars matching ++
        ([' '] ++ chars rhs))) := by
  simp only [chars, operatorChars, List.append_assoc, List.cons_append, List.nil_append]

/-- A call is the name of the function before the parentheses. -/
theorem chars_call (func : String) (args : List Expr) :
    chars (call func args) = nameChars func ++ ('(' :: argsChars args ++ [')']) := by
  simp only [chars, List.append_assoc, List.cons_append]

/-- What stands between the brackets of a subquery. -/
def stepChars (range : Duration) (step : Option Duration) : List Char :=
  range.chars ++ ':' :: (step.map Duration.chars).getD []

/-- What stands between the brackets of a subquery shows no bracket. -/
theorem quiet_stepChars (range : Duration) (step : Option Duration) :
    Quiet (stepChars range step) := by
  have wide : Quiet ((step.map Duration.chars).getD []) := by
    cases step with
    | none => decide
    | some d => exact d.quiet_chars
  exact range.quiet_chars.append ((by decide : Quiet [':']).append wide)

/-- What stands between the two sides of an operation shows no bracket, the matching apart. -/
theorem quiet_operatorChars (op : BinaryOperator) (returnBool : Bool) :
    Quiet (operatorChars op returnBool) :=
  ((by decide : Quiet [' ']).append op.quiet_token).append (by cases returnBool <;> decide)

/-- A subquery is its expression before the brackets, and the offset. -/
theorem chars_subquery (body : Expr) (range : Duration) (step offset : Option Duration) :
    chars (subquery body range step offset) =
      chars body ++ (('[' :: stepChars range step ++ [']']) ++ offsetChars offset) := by
  simp only [chars, stepChars, List.append_assoc, List.cons_append, List.nil_append]

/-- A range selector over something else than an instant selector has its range at the end. -/
theorem chars_matrix_of_selector?_eq_none {body : Expr} (h : body.selector? = none)
    (range : Duration) : chars (matrix body range) = chars body ++ rangeChars range := by
  cases body <;> first | rfl | cases h

end Expr

end SelectorGuard
