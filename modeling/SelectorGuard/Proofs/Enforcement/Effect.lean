import SelectorGuard.Proofs.Enforcement.Walk
import Mathlib.Data.List.Forall2

/-!
# What a successful walk changes

A walk that goes through puts the reconciled matchers into every selector that is not shielded by a
range selector over something else. Nothing else of the root changes, and its selectors are listed
in the same order as before.
-/

namespace SelectorGuard

/-- Selectors are listed in the same order before and after their entries are treated, each of them
treated or left as it is. -/
theorem Entry.forall₂_selectors (f : Selector → Selector) (entries : List Entry) :
    List.Forall₂ (fun s t => t = s ∨ t = f s) (entries.filterMap Entry.selector?)
      ((entries.map (Entry.map f)).filterMap Entry.selector?) := by
  induction entries with
  | nil => exact List.Forall₂.nil
  | cons c rest ih =>
    obtain ⟨site, shielded⟩ := c
    cases site with
    | extension kind => cases shielded <;> exact ih
    | selector s =>
      cases shielded with
      | true => exact List.Forall₂.cons (Or.inl rfl) ih
      | false => exact List.Forall₂.cons (Or.inr rfl) ih

namespace Policy

/-- Enforcing a policy on any root without being stopped gives the root with the matchers of every
selector that is not shielded replaced by the reconciled ones. In the census, which lists all
selectors of the root with what shields them, the entries that are not shielded are these
selectors, and only they change. -/
theorem enforceRoot_result_eq_mapSelectors (p : Policy) (root : Root)
    (h : (p.enforceRoot root).outcome = .done) :
    (p.enforceRoot root).result = root.mapSelectors p.settle ∧
    root.census.filterMap Entry.selector? = root.selectors ∧
    (p.enforceRoot root).result.census = root.census.map (Entry.map p.settle) ∧
    (∀ c ∈ root.census, c.shielded = false →
      ∃ s, c.site = .selector s ∧ p.reconcile s.matchers = .ok (p.settle s).matchers) ∧
    List.Forall₂ (fun s t => t = s ∨ t = p.settle s) root.selectors
      (p.enforceRoot root).result.selectors := by
  have result := result_of_done root h
  have census := Root.census_mapSelectors p.settle root
  have selectors := Entry.forall₂_selectors p.settle root.census
  rw [← census, Root.filterMap_census, Root.filterMap_census] at selectors
  refine ⟨result, Root.filterMap_census root, result ▸ census, ?_, result ▸ selectors⟩
  intro c hc open_
  exact reconcile_of_done root h hc open_

/-- An instant query for a sum: the selector on the left loses its matcher on the tenant and gets the
required one, while the range selector over parentheses stays, and so do the times. -/
theorem enforceRoot_result_of_instant_sum :
    let api : Matcher := .equalTo "job" "api" (by decide)
    let own : Matcher := .equalTo "tenant" "acme" (by decide)
    let foreign : Matcher := .equalTo "tenant" "other" (by decide)
    let shield : Expr := .matrix (.paren (.vector ⟨some "b", [foreign], none⟩)) (.ofSeconds 60)
    let sum (ms : List Matcher) : Root :=
      .statement (.instant (.binary .add (.vector ⟨some "a", ms, none⟩) shield false none) ⟨9, 0⟩)
    ((forTenant false "acme").enforceRoot (sum [foreign, api])).outcome = .done ∧
      ((forTenant false "acme").enforceRoot (sum [foreign, api])).result = sum [api, own] := by
  intro api own foreign shield sum
  have done : ((forTenant false "acme").enforceRoot (sum [foreign, api])).outcome = .done := by
    decide
  have settled : (forTenant false "acme").merged [foreign, api] = [api, own] := by decide
  have effect := enforceRoot_result_eq_mapSelectors (forTenant false "acme") (sum [foreign, api]) done
  refine ⟨done, effect.1.trans ?_⟩
  rw [← settled]
  rfl

end Policy

end SelectorGuard
