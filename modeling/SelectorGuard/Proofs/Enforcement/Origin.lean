import SelectorGuard.Proofs.Enforcement.Walk
import SelectorGuard.Proofs.Query.Origin

/-!
# Where the matchers of an enforced query come from

A walk puts the matchers of the policy beside those that a selector has, or leaves the selector as
it is. However it ends, and wherever it stops, the tree that it leaves behind has no matcher that is
neither in the tree before nor in the policy.
-/

namespace SelectorGuard

/-- The matchers of all selectors of a root. -/
def Root.matchers (r : Root) : List Matcher :=
  r.selectors.flatMap Selector.matchers

namespace Expr

variable {f : Selector → Selector} {Q : Selector → Prop}

mutual

/-- What holds of the selectors and outlasts their treatment holds when the first sites have been
treated. -/
theorem forall_selectors_mapFirst (keep : ∀ s, Q s → Q (f s)) {n : Nat} : ∀ {e : Expr},
    (∀ s ∈ e.selectors, Q s) → ∀ s ∈ (mapFirst f n e).selectors, Q s
  | aggregate _ body param _ _, h => by
    rw [selectors] at h
    rw [mapFirst, selectors]
    obtain ⟨first, second⟩ := List.forall_mem_append.mp h
    exact List.forall_mem_append.mpr
      ⟨forall_selectors_mapFirst keep first, forall_selectors_optionMapFirst keep second⟩
  | binary _ lhs rhs _ _, h => by
    rw [selectors] at h
    rw [mapFirst, selectors]
    obtain ⟨first, second⟩ := List.forall_mem_append.mp h
    exact List.forall_mem_append.mpr
      ⟨forall_selectors_mapFirst keep first, forall_selectors_mapFirst keep second⟩
  | call _ args, h => forall_selectors_listMapFirst keep (n := n) h
  | subquery body _ _ _, h => forall_selectors_mapFirst keep (e := body) h
  | paren body, h => forall_selectors_mapFirst keep (e := body) h
  | unary _ body, h => forall_selectors_mapFirst keep (e := body) h
  | number _, h => h
  | text _, h => h
  | matrix body _, h => by
    rw [mapFirst]
    cases selected : body.selector? with
    | none => exact h
    | some s =>
      obtain rfl := eq_vector_of_selector? selected
      have own : Q s := h s List.mem_cons_self
      refine List.forall_mem_singleton.mpr ?_
      split
      · exact own
      · exact keep s own
  | vector s, h => by
    have own : Q s := h s List.mem_cons_self
    refine List.forall_mem_singleton.mpr ?_
    split
    · exact own
    · exact keep s own
  | extension _ _, h => h

/-- The same of expressions one after the other. -/
theorem forall_selectors_listMapFirst (keep : ∀ s, Q s → Q (f s)) {n : Nat} :
    ∀ {es : List Expr}, (∀ s ∈ listSelectors es, Q s) →
      ∀ s ∈ listSelectors (listMapFirst f n es), Q s
  | [], h => h
  | e :: rest, h => by
    rw [listSelectors] at h
    rw [listMapFirst, listSelectors]
    obtain ⟨first, others⟩ := List.forall_mem_append.mp h
    exact List.forall_mem_append.mpr
      ⟨forall_selectors_mapFirst keep first, forall_selectors_listMapFirst keep others⟩

/-- The same of an expression that may be missing. -/
theorem forall_selectors_optionMapFirst (keep : ∀ s, Q s → Q (f s)) {n : Nat} :
    ∀ {e : Option Expr}, (∀ s ∈ optionSelectors e, Q s) →
      ∀ s ∈ optionSelectors (optionMapFirst f n e), Q s
  | none, h => h
  | some e, h => forall_selectors_mapFirst keep (e := e) h

end

end Expr

namespace Policy

/-- A merged matcher is one of the selector or of the policy. -/
theorem mem_or_mem_rules_of_mem_merged {p : Policy} {ms : List Matcher} {m : Matcher}
    (h : m ∈ p.merged ms) : m ∈ ms ∨ m ∈ p.rules :=
  (List.mem_append.mp h).imp_left List.mem_of_mem_filter

/-- Reconciling gives no matcher that is neither given nor required. -/
theorem mem_or_mem_rules_of_reconcile {p : Policy} {ms reconciled : List Matcher}
    (h : p.reconcile ms = .ok reconciled) : ∀ m ∈ reconciled, m ∈ ms ∨ m ∈ p.rules := by
  rw [reconcile_eq] at h
  split at h
  · cases h
  · cases h
    exact fun m => mem_or_mem_rules_of_mem_merged

/-- Enforcing a policy on a root leaves no matcher that is neither in the root before nor required,
whether the walk goes through or stops. -/
theorem mem_or_mem_rules_of_enforceRoot (p : Policy) (root : Root) :
    ∀ m ∈ (p.enforceRoot root).result.matchers, m ∈ root.matchers ∨ m ∈ p.rules := by
  -- A selector with known matchers only is still one when it has been settled.
  let Known (s : Selector) : Prop := ∀ m ∈ s.matchers, m ∈ root.matchers ∨ m ∈ p.rules
  have keep (s : Selector) (h : Known s) : Known (p.settle s) := fun m hm =>
    (mem_or_mem_rules_of_mem_merged hm).elim (h m) .inr
  have before : ∀ s ∈ root.selectors, Known s := fun s hs m hm =>
    .inl (List.mem_flatMap.mpr ⟨s, hs, hm⟩)
  have after : ∀ s ∈ (p.enforceRoot root).result.selectors, Known s := by
    rw [enforceRoot_eq]
    cases root with
    | statement s => exact Expr.forall_selectors_mapFirst keep before
    | expressions es => exact Expr.forall_selectors_listMapFirst keep before
    | expr e => exact Expr.forall_selectors_mapFirst keep before
  intro m hm
  obtain ⟨s, hs, own⟩ := List.mem_flatMap.mp hm
  exact after s hs m own

end Policy

end SelectorGuard
