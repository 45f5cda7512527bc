import SelectorGuard.Proofs.Query.Sites

/-!
# Expressions of one shape

Two expressions have the same shape when they are built alike and differ in nothing but their texts:
metric names, the matchers of their selectors, the labels of their clauses, function names and text
literals. What the selectors at the same place have in common is left to a relation, because it
depends on the purpose whether the presence of a metric name counts. Extension nodes, of which
nothing is known, have no shape.
-/

namespace SelectorGuard

/-- Matchings that differ at most in their labels. -/
structure VectorMatching.Alike (m n : VectorMatching) : Prop where
  /-- The cardinality is the same. -/
  card : m.card = n.card
  /-- Both match on their labels, or both ignore them. -/
  on : m.on = n.on
  /-- They have as many labels. -/
  labels : m.labels.length = n.labels.length
  /-- They take over as many labels. -/
  includes : m.includes.length = n.includes.length

/-- Selectors that differ at most in their metric names and in what their matchers are. -/
structure Selector.Alike (s t : Selector) : Prop where
  /-- They have as many matchers. -/
  matchers : s.matchers.length = t.matchers.length
  /-- They are shifted alike. -/
  offset : s.offset = t.offset

namespace Expr

variable (R : Selector → Selector → Prop)

mutual

/-- Expressions of the same shape, whose selectors are related one by one. -/
inductive Alike : Expr → Expr → Prop
  | aggregate (op : Aggregator) (without : Bool) {body body' : Expr} {param param' : Option Expr}
      {grouping grouping' : List String} :
      Alike body body' → OptionAlike param param' → grouping.length = grouping'.length →
      Alike (aggregate op body param grouping without)
        (aggregate op body' param' grouping' without)
  | binary (op : BinaryOperator) (returnBool : Bool) {lhs lhs' rhs rhs' : Expr}
      {matching matching' : Option VectorMatching} :
      Alike lhs lhs' → Alike rhs rhs' → Option.Rel VectorMatching.Alike matching matching' →
      Alike (binary op lhs rhs returnBool matching) (binary op lhs' rhs' returnBool matching')
  | call (func func' : String) {args args' : List Expr} :
      ListAlike args args' → Alike (call func args) (call func' args')
  | subquery (range : Duration) (step offset : Option Duration) {body body' : Expr} :
      Alike body body' → Alike (subquery body range step offset) (subquery body' range step offset)
  | paren {body body' : Expr} : Alike body body' → Alike (paren body) (paren body')
  | unary (op : UnaryOperator) {body body' : Expr} :
      Alike body body' → Alike (unary op body) (unary op body')
  | number (value : Float) : Alike (number value) (number value)
  | text (value value' : String) : Alike (text value) (text value')
  | matrix (range : Duration) {body body' : Expr} :
      Alike body body' → Alike (matrix body range) (matrix body' range)
  | vector {s t : Selector} : R s t → Alike (vector s) (vector t)

/-- Lists of expressions of the same shapes. -/
inductive ListAlike : List Expr → List Expr → Prop
  | nil : ListAlike [] []
  | cons {e e' : Expr} {rest rest' : List Expr} :
      Alike e e' → ListAlike rest rest' → ListAlike (e :: rest) (e' :: rest')

/-- Expressions of the same shape, or none on either side. -/
inductive OptionAlike : Option Expr → Option Expr → Prop
  | none : OptionAlike none none
  | some {e e' : Expr} : Alike e e' → OptionAlike (some e) (some e')

end

variable {R}

/-- Of two expressions of the same shape both are instant selectors, or neither is. -/
theorem Alike.selector_or_none {e e' : Expr} (h : Alike R e e') :
    (∃ s t, e = .vector s ∧ e' = .vector t ∧ R s t) ∨ e.selector? = none ∧ e'.selector? = none := by
  cases h with
  | vector related => exact Or.inl ⟨_, _, rfl, rfl, related⟩
  | _ => exact Or.inr ⟨rfl, rfl⟩

end Expr

end SelectorGuard
