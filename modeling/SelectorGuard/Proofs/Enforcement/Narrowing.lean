import SelectorGuard.Proofs.Enforcement.Scope
import SelectorGuard.Proofs.Policy.Assembly
import SelectorGuard.Proofs.Policy.Merging
import SelectorGuard.Proofs.Query.Counterpart

/-!
# Strict and lenient enforcement

A strict policy refuses some of the queries that the lenient policy from the same matchers rewrites.
A query that it does not refuse it rewrites in the same way. The matchers that it drops are then
among those that it requires, so the query can only lose series by it.
-/

namespace SelectorGuard.Policy

/-- A lenient policy refuses nothing. -/
theorem refuses_eq_false_of_lenient {p : Policy} (lenient : p.strict = false) (m : Matcher) :
    p.refuses m = false := by
  rw [refuses, lenient, Bool.false_and]

/-- A walk that goes through under one policy goes through under every policy that refuses no more. -/
theorem outcome_eq_done_of_refuses_less {p q : Policy}
    (less : ∀ m, p.refuses m = false → q.refuses m = false) {root : Root}
    (h : (p.enforceRoot root).outcome = .done) : (q.enforceRoot root).outcome = .done := by
  rw [enforceRoot_outcome_eq_done_iff] at h ⊢
  intro x hx
  have passed := h x hx
  cases x with
  | selector s =>
    rw [halt?_selector_eq_none_iff] at passed ⊢
    exact fun m hm => less m (passed m hm)
  | extension kind => cases passed

/-- A strict policy that lets a selector pass contradicts none of its matchers. -/
theorem contradicts_eq_false_of_halt?_eq_none {p : Policy} (strict : p.strict = true) {s : Selector}
    (h : p.halt? (.selector s) = none) {m : Matcher} (hm : m ∈ s.matchers) :
    p.contradicts m = false := by
  have passed := halt?_selector_eq_none_iff.mp h m hm
  rwa [refuses, strict, Bool.true_and] at passed

/-- A policy that contradicts none of the matchers of a selector adds its own ones to what the
selector asks for. The matchers that it drops are among its own. -/
theorem accepts_settle_iff_of_agrees {p : Policy} {s : Selector}
    (agrees : ∀ m ∈ s.matchers, p.contradicts m = false) (value : String → String) :
    (p.settle s).accepts value = true ↔
      s.accepts value = true ∧ ∀ r ∈ p.rules, r.accepts (value r.name) = true := by
  rw [accepts_settle_iff, Selector.accepts, List.all_eq_true]
  constructor
  · rintro ⟨required, own⟩
    refine ⟨fun m hm => ?_, required⟩
    by_cases dropped : ∃ r ∈ p.rules, r.name = m.name ∧ r.kind = .equal
    · obtain ⟨r, hr, names, -⟩ := dropped
      obtain rfl : r = m := contradicts_eq_false_iff.mp (agrees m hm) r hr names
      exact required r hr
    · exact own m hm dropped
  · rintro ⟨own, required⟩
    exact ⟨required, fun m hm _ => own m hm⟩

/-- If the strict policy from a list of matchers goes through a query, so does the lenient policy
from the same list, and the query becomes the same. A selector that is not shielded then accepts a
series just if it accepted the series before and all required matchers accept it; a label that the
series lacks has the empty value. What is shielded stays as it is. -/
theorem enforceRoot_strict_refines_lenient (ms : List Matcher) (root : Root)
    (h : ((ofList true ms).enforceRoot root).outcome = .done) :
    ((ofList false ms).enforceRoot root).outcome = .done ∧
    ((ofList false ms).enforceRoot root).result = ((ofList true ms).enforceRoot root).result ∧
    List.Forall₂ (Entry.Becomes fun s t => ∀ value : String → String,
        (t.accepts value = true ↔
          s.accepts value = true ∧ ∀ r ∈ (ofList true ms).rules, r.accepts (value r.name) = true))
      root.census ((ofList true ms).enforceRoot root).result.census := by
  have lenient : ((ofList false ms).enforceRoot root).outcome = .done :=
    outcome_eq_done_of_refuses_less
      (fun m _ => refuses_eq_false_of_lenient (strict_ofList false ms) m) h
  refine ⟨lenient, ?_, ?_⟩
  · rw [result_of_done root lenient, result_of_done root h,
      settle_congr (rules_ofList_eq false true ms)]
  · rw [result_of_done root h]
    refine Root.forall₂_census_mapSelectors (extension_notMem_of_done root h) fun s hs => ?_
    have passed := halt?_eq_none_of_done root h hs
    exact accepts_settle_iff_of_agrees fun m hm =>
      contradicts_eq_false_of_halt?_eq_none (strict_ofList true ms) passed hm

/-- A query that already asks for its own tenant and keeps off one team: a strict policy for this
tenant and against this team goes through. It repeats what was asked, so no series is lost that was
the tenant's and not the team's, and the lenient policy does the same. -/
theorem enforceRoot_strict_refines_lenient_on_own_tenant :
    let own : Matcher := .equalTo "tenant" "acme" (by decide)
    let prod : Matcher := .equalTo "stage" "prod" (by decide)
    let team : Matcher := ⟨"team", .notEqual, "ops", by decide, nofun⟩
    let up (ms : List Matcher) : Selector := ⟨some "up", ms, none⟩
    let root (ms : List Matcher) : Root := .expr (.paren (.vector (up ms)))
    let strict := (ofList true [own, team]).enforceRoot (root [own, team, prod])
    strict.outcome = .done ∧ strict.result = root [team, prod, team, own] ∧
      ((ofList false [own, team]).enforceRoot (root [own, team, prod])).result = strict.result ∧
      ∀ value, (up [team, prod, team, own]).accepts value = true ↔
        (up [own, team, prod]).accepts value = true ∧
          ∀ r ∈ (ofList true [own, team]).rules, r.accepts (value r.name) = true := by
  intro own prod team up root strict
  have done : strict.outcome = .done := by decide
  have effect := enforceRoot_strict_refines_lenient [own, team] (root [own, team, prod]) done
  have settled : (ofList true [own, team]).merged [own, team, prod] = [team, prod, team, own] := by
    decide
  have result : strict.result = root [team, prod, team, own] := by
    rw [← settled]
    exact result_of_done _ done
  have census := effect.2.2
  rw [show ((ofList true [own, team]).enforceRoot _).result = _ from result] at census
  refine ⟨done, result, effect.2.1, ?_⟩
  cases census with
  | cons first _ =>
    cases first with
    | visited narrowed => exact narrowed

end SelectorGuard.Policy
