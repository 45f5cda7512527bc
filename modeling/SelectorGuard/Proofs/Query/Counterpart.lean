import SelectorGuard.Proofs.Query.Roots
import Mathlib.Data.List.Forall2

/-!
# Expressions that differ in their selectors only

Two expressions are counterparts when they agree in everything but their selectors, and the
selectors at the same place are related. What the relation is depends on the purpose: the matchers
may be the same in another order, or the same but for how often each of them occurs. In the same way
the census of a root after a walk is compared with the one before.
-/

namespace SelectorGuard

/-- Selectors that have the same matchers, in whatever order. -/
structure Selector.Reordered (s t : Selector) : Prop where
  /-- The metric name is the same. -/
  name : s.name = t.name
  /-- They are shifted alike. -/
  offset : s.offset = t.offset
  /-- Every matcher occurs in both equally often. -/
  matchers : s.matchers.Perm t.matchers

/-- The order of the matchers does not matter for what a selector accepts. -/
theorem Selector.Reordered.accepts_eq {s t : Selector} (h : s.Reordered t)
    (value : String → String) : s.accepts value = t.accepts value :=
  h.matchers.all_eq

namespace Expr

variable (R : Selector → Selector → Prop)

mutual

/-- Expressions that are equal apart from their selectors, which are related one by one. -/
inductive Counterpart : Expr → Expr → Prop
  | aggregate (op : Aggregator) (grouping : List String) (without : Bool) {body body' : Expr}
      {param param' : Option Expr} : Counterpart body body' → OptionCounterpart param param' →
      Counterpart (aggregate op body param grouping without)
        (aggregate op body' param' grouping without)
  | binary (op : BinaryOperator) (returnBool : Bool) (matching : Option VectorMatching)
      {lhs lhs' rhs rhs' : Expr} : Counterpart lhs lhs' → Counterpart rhs rhs' →
      Counterpart (binary op lhs rhs returnBool matching) (binary op lhs' rhs' returnBool matching)
  | call (func : String) {args args' : List Expr} :
      ListCounterpart args args' → Counterpart (call func args) (call func args')
  | subquery (range : Duration) (step offset : Option Duration) {body body' : Expr} :
      Counterpart body body' →
      Counterpart (subquery body range step offset) (subquery body' range step offset)
  | paren {body body' : Expr} : Counterpart body body' → Counterpart (paren body) (paren body')
  | unary (op : UnaryOperator) {body body' : Expr} :
      Counterpart body body' → Counterpart (unary op body) (unary op body')
  | number (value : Float) : Counterpart (number value) (number value)
  | text (value : String) : Counterpart (text value) (text value)
  | matrix (range : Duration) {body body' : Expr} :
      Counterpart body body' → Counterpart (matrix body range) (matrix body' range)
  | vector {s t : Selector} : R s t → Counterpart (vector s) (vector t)
  | extension (kind : String) {args args' : List Expr} :
      ListCounterpart args args' → Counterpart (extension kind args) (extension kind args')

/-- Lists of counterparts. -/
inductive ListCounterpart : List Expr → List Expr → Prop
  | nil : ListCounterpart [] []
  | cons {e e' : Expr} {rest rest' : List Expr} :
      Counterpart e e' → ListCounterpart rest rest' → ListCounterpart (e :: rest) (e' :: rest')

/-- Counterparts, or no expression on either side. -/
inductive OptionCounterpart : Option Expr → Option Expr → Prop
  | none : OptionCounterpart none none
  | some {e e' : Expr} : Counterpart e e' → OptionCounterpart (some e) (some e')

end

variable {R}

mutual

/-- Every expression is its own counterpart if every selector is related to itself. -/
theorem Counterpart.refl (same : ∀ s, R s s) : ∀ e : Expr, Counterpart R e e
  | .aggregate op body param grouping without =>
    .aggregate op grouping without (Counterpart.refl same body)
      (OptionCounterpart.refl same param)
  | .binary op lhs rhs returnBool matching =>
    .binary op returnBool matching (Counterpart.refl same lhs) (Counterpart.refl same rhs)
  | .call func args => .call func (ListCounterpart.refl same args)
  | .subquery body range step offset => .subquery range step offset (Counterpart.refl same body)
  | .paren body => .paren (Counterpart.refl same body)
  | .unary op body => .unary op (Counterpart.refl same body)
  | .number value => .number value
  | .text value => .text value
  | .matrix body range => .matrix range (Counterpart.refl same body)
  | .vector s => .vector (same s)
  | .extension kind args => .extension kind (ListCounterpart.refl same args)

/-- Every list of expressions is its own counterpart if every selector is related to itself. -/
theorem ListCounterpart.refl (same : ∀ s, R s s) : ∀ es : List Expr, ListCounterpart R es es
  | [] => .nil
  | e :: rest => .cons (Counterpart.refl same e) (ListCounterpart.refl same rest)

/-- Every expression that may be missing is its own counterpart if every selector is related to
itself. -/
theorem OptionCounterpart.refl (same : ∀ s, R s s) : ∀ e : Option Expr, OptionCounterpart R e e
  | none => .none
  | some e => .some (Counterpart.refl same e)

end

variable {f g : Selector → Selector}

mutual

/-- Treating the selectors of an expression in two ways with related outcomes gives counterparts.
What is shielded is left as it is both times. -/
theorem counterpart_mapSelectors (same : ∀ s, R s s) (related : ∀ s, R (f s) (g s)) : ∀ e : Expr,
    Counterpart R (mapSelectors f e) (mapSelectors g e)
  | .aggregate op body param grouping without =>
    .aggregate op grouping without (counterpart_mapSelectors same related body)
      (counterpart_optionMapSelectors same related param)
  | .binary op lhs rhs returnBool matching =>
    .binary op returnBool matching (counterpart_mapSelectors same related lhs)
      (counterpart_mapSelectors same related rhs)
  | .call func args => .call func (counterpart_listMapSelectors same related args)
  | .subquery body range step offset =>
    .subquery range step offset (counterpart_mapSelectors same related body)
  | .paren body => .paren (counterpart_mapSelectors same related body)
  | .unary op body => .unary op (counterpart_mapSelectors same related body)
  | .number value => .number value
  | .text value => .text value
  | .matrix body range => by
    cases h : body.selector? with
    | none =>
      rw [mapSelectors, mapSelectors, h]
      exact .matrix range (Counterpart.refl same body)
    | some s =>
      rw [mapSelectors, mapSelectors, h]
      exact .matrix range (.vector (related s))
  | .vector s => .vector (related s)
  | .extension kind args => .extension kind (counterpart_listMapSelectors same related args)

/-- Treating the selectors of expressions in two ways with related outcomes gives counterparts. -/
theorem counterpart_listMapSelectors (same : ∀ s, R s s) (related : ∀ s, R (f s) (g s)) :
    ∀ es : List Expr, ListCounterpart R (listMapSelectors f es) (listMapSelectors g es)
  | [] => .nil
  | e :: rest =>
    .cons (counterpart_mapSelectors same related e) (counterpart_listMapSelectors same related rest)

/-- Treating the selectors of an expression that may be missing in two ways with related outcomes
gives counterparts. -/
theorem counterpart_optionMapSelectors (same : ∀ s, R s s) (related : ∀ s, R (f s) (g s)) :
    ∀ e : Option Expr, OptionCounterpart R (optionMapSelectors f e) (optionMapSelectors g e)
  | none => .none
  | some e => .some (counterpart_mapSelectors same related e)

end

mutual

/-- The selectors of counterparts are related one by one. -/
theorem Counterpart.forall₂_selectors : ∀ {e e' : Expr}, Counterpart R e e' →
    List.Forall₂ R (selectors e) (selectors e')
  | _, _, .aggregate _ _ _ body param =>
    List.rel_append body.forall₂_selectors param.forall₂_selectors
  | _, _, .binary _ _ _ lhs rhs => List.rel_append lhs.forall₂_selectors rhs.forall₂_selectors
  | _, _, .call _ args => args.forall₂_selectors
  | _, _, .subquery _ _ _ body => body.forall₂_selectors
  | _, _, .paren body => body.forall₂_selectors
  | _, _, .unary _ body => body.forall₂_selectors
  | _, _, .number _ => .nil
  | _, _, .text _ => .nil
  | _, _, .matrix _ body => body.forall₂_selectors
  | _, _, .vector related => .cons related .nil
  | _, _, .extension _ args => args.forall₂_selectors

/-- The selectors of lists of counterparts are related one by one. -/
theorem ListCounterpart.forall₂_selectors : ∀ {es es' : List Expr}, ListCounterpart R es es' →
    List.Forall₂ R (listSelectors es) (listSelectors es')
  | _, _, .nil => .nil
  | _, _, .cons e rest => List.rel_append e.forall₂_selectors rest.forall₂_selectors

/-- The selectors of counterparts that may be missing are related one by one. -/
theorem OptionCounterpart.forall₂_selectors : ∀ {e e' : Option Expr}, OptionCounterpart R e e' →
    List.Forall₂ R (optionSelectors e) (optionSelectors e')
  | _, _, .none => .nil
  | _, _, .some e => e.forall₂_selectors

end

end Expr

namespace Root

/-- Roots that are equal apart from their selectors, which are related one by one. -/
inductive Counterpart (R : Selector → Selector → Prop) : Root → Root → Prop
  | statement (s : Statement) {e e' : Expr} : Expr.Counterpart R e e' →
      Counterpart R (statement { s with expr := e }) (statement { s with expr := e' })
  | expressions {es es' : List Expr} :
      Expr.ListCounterpart R es es' → Counterpart R (expressions es) (expressions es')
  | expr {e e' : Expr} : Expr.Counterpart R e e' → Counterpart R (expr e) (expr e')

variable {R : Selector → Selector → Prop}

/-- Treating the selectors of a root in two ways with related outcomes gives counterparts. -/
theorem counterpart_mapSelectors {f g : Selector → Selector} (same : ∀ s, R s s)
    (related : ∀ s, R (f s) (g s)) (root : Root) :
    Counterpart R (root.mapSelectors f) (root.mapSelectors g) := by
  cases root with
  | statement s => exact .statement s (Expr.counterpart_mapSelectors same related s.expr)
  | expressions es => exact .expressions (Expr.counterpart_listMapSelectors same related es)
  | expr e => exact .expr (Expr.counterpart_mapSelectors same related e)

/-- The selectors of counterparts are related one by one. -/
theorem Counterpart.forall₂_selectors {root other : Root} (h : Counterpart R root other) :
    List.Forall₂ R root.selectors other.selectors := by
  cases h with
  | statement s e => exact e.forall₂_selectors
  | expressions es => exact es.forall₂_selectors
  | expr e => exact e.forall₂_selectors

end Root

/-- What becomes of an entry of a census when a walk goes through. What is shielded stays, a selector
that is not gives way to a related one, and an extension node that is not shielded cannot be there. -/
inductive Entry.Becomes (R : Selector → Selector → Prop) : Entry → Entry → Prop
  | shielded (site : Site) : Becomes R ⟨site, true⟩ ⟨site, true⟩
  | visited {s t : Selector} : R s t → Becomes R ⟨.selector s, false⟩ ⟨.selector t, false⟩

/-- If a walk meets no extension node in a root, and every selector that it meets is related to what
it is treated to, then this is what becomes of the census. -/
theorem Root.forall₂_census_mapSelectors {R : Selector → Selector → Prop} {f : Selector → Selector}
    {root : Root} (hx : ∀ kind, .extension kind ∉ root.sites)
    (related : ∀ s, .selector s ∈ root.sites → R s (f s)) :
    List.Forall₂ (Entry.Becomes R) root.census (root.mapSelectors f).census := by
  rw [census_mapSelectors, List.forall₂_map_right_iff, List.forall₂_same]
  rintro ⟨site, shielded⟩ hc
  cases shielded with
  | true => exact .shielded site
  | false =>
    have met : site ∈ root.sites := mem_sites_of_mem_census rfl hx hc
    cases site with
    | selector s => exact .visited (related s met)
    | extension kind => exact absurd met (hx kind)

end SelectorGuard
