import SelectorGuard.Proofs.Enforcement.Walk

/-!
# Where a walk stops and what it leaves behind

A walk stops at the first site that is an extension node or, under a strict policy, a selector with
a matcher that contradicts the policy. The selectors before this site have been reconciled by then;
the site itself and everything after it is as it was.
-/

namespace SelectorGuard.Policy

variable (p : Policy)

/-- A walk stops at every extension node, and under a strict policy at a selector with a matcher on
a label of the policy that is not the required one. -/
def stops : Site → Bool
  | .selector s => p.strict && s.matchers.any p.contradicts
  | .extension _ => true

/-- The sites that stop a walk are those at which it ends. -/
theorem stops_eq_isSome (x : Site) : p.stops x = (p.halt? x).isSome := by
  cases x with
  | extension kind => rfl
  | selector s =>
    rw [stops, halt?, Option.isSome_map, List.isSome_find?]
    cases h : p.strict <;> simp [refuses, h]

variable {p}

/-- A site that does not stop a walk does not end it. -/
theorem halt?_of_stops_eq_false {x : Site} (h : p.stops x = false) : p.halt? x = none := by
  rwa [stops_eq_isSome, Option.isSome_eq_false_iff, Option.isNone_iff_eq_none] at h

/-- The first site that stops a walk decides how it ends, and only what stands before is left
behind. -/
theorem ending_of_first_stop {before after : List Site} {x : Site} {o : Outcome}
    (clear : ∀ y ∈ before, p.stops y = false) (halted : p.halt? x = some o) :
    p.ending (before ++ x :: after) = o ∧ p.reach (before ++ x :: after) = before.length := by
  have through : p.ending before = .done :=
    p.ending_eq_done_iff.mpr fun y hy => halt?_of_stops_eq_false (clear y hy)
  rw [ending_append, reach_append, if_pos through, if_pos through]
  constructor
  · simp only [ending, List.findSome?_cons, halted, Option.getD_some]
  · simp only [reach, List.findIdx_cons, halted, Option.isSome_some, cond_true, Nat.add_zero]

/-- A selector that stops a walk has a first matcher that contradicts the policy, and the walk ends
with this matcher and the one that is required instead. -/
theorem halt?_selector_of_stops {s : Selector} (h : p.stops (.selector s) = true) :
    ∃ m required, s.matchers.find? p.contradicts = some m ∧ p.get? m.name = some required ∧
      p.halt? (.selector s) = some (.conflict ⟨m.canonical, required.canonical⟩) := by
  rw [stops, Bool.and_eq_true, ← List.isSome_find?] at h
  obtain ⟨m, hm⟩ := Option.isSome_iff_exists.mp h.2
  have refused : p.refuses = p.contradicts := by
    funext n
    rw [refuses, h.1, Bool.true_and]
  have disagrees : p.contradicts m = true := List.find?_some hm
  obtain ⟨required, hr, -⟩ := (Option.any_eq_true _ _).mp disagrees
  refine ⟨m, required, hm, hr, ?_⟩
  rw [halt?, refused, hm, Option.map_some, conflictOn, hr]
  rfl

/-- Only a strict policy ends a walk with a conflict. -/
theorem strict_of_ending_eq_conflict {sites : List Site} {c : Conflict}
    (h : p.ending sites = .conflict c) : p.strict = true := by
  have found : sites.findSome? p.halt? = some (.conflict c) := by
    unfold ending at h
    cases hf : sites.findSome? p.halt? with
    | none =>
      rw [hf] at h
      cases h
    | some o =>
      rw [hf] at h
      exact congrArg some h
  obtain ⟨x, -, hx⟩ := List.exists_of_findSome?_eq_some found
  cases x with
  | extension kind => cases hx
  | selector s =>
    obtain ⟨m, hm, -⟩ := Option.map_eq_some_iff.mp hx
    have refused : p.refuses m = true := List.find?_some hm
    rw [refuses, Bool.and_eq_true] at refused
    exact refused.1

/-- A walk over any root goes through if none of its sites stops it. Otherwise the first one that
does decides the outcome: an extension node is reported by its kind, and a selector by its first
matcher that contradicts the policy together with the required one. The selectors before it have
been reconciled, and the site itself and all that follows is as it was. A policy that is not strict
never ends in a conflict. -/
theorem enforceRoot_stops_at_first (p : Policy) (root : Root) :
    ((∀ x ∈ root.sites, p.stops x = false) → (p.enforceRoot root).outcome = .done) ∧
    (∀ before x after, root.sites = before ++ x :: after →
      (∀ y ∈ before, p.stops y = false) → p.stops x = true →
      (∀ kind, x = .extension kind → (p.enforceRoot root).outcome = .unhandled kind) ∧
      (∀ s, x = .selector s → ∃ m required, s.matchers.find? p.contradicts = some m ∧
        p.get? m.name = some required ∧
        (p.enforceRoot root).outcome = .conflict ⟨m.canonical, required.canonical⟩) ∧
      (∀ s, .selector s ∈ before → p.reconcile s.matchers = .ok (p.settle s).matchers) ∧
      (p.enforceRoot root).result = root.mapFirst p.settle before.length ∧
      (p.enforceRoot root).result.sites = before.map (Site.map p.settle) ++ x :: after) ∧
    (p.strict = false → ∀ c, (p.enforceRoot root).outcome ≠ .conflict c) := by
  rw [enforceRoot_eq]
  refine ⟨fun clear => ?_, fun before x after split clear stop => ?_, fun lenient c conflict => ?_⟩
  · exact p.ending_eq_done_iff.mpr fun x hx => halt?_of_stops_eq_false (clear x hx)
  · obtain ⟨o, halted⟩ : ∃ o, p.halt? x = some o := by
      rwa [stops_eq_isSome, Option.isSome_iff_exists] at stop
    have first : p.ending (before ++ x :: after) = o ∧
        p.reach (before ++ x :: after) = before.length := ending_of_first_stop clear halted
    rw [Root.sites_mapFirst, split, first.1, first.2]
    refine ⟨?_, ?_, ?_, rfl, ?_⟩
    · rintro kind rfl
      exact (Option.some.inj halted).symm
    · rintro s rfl
      obtain ⟨m, required, hm, hr, ends⟩ := halt?_selector_of_stops stop
      rw [ends] at halted
      exact ⟨m, required, hm, hr, (Option.some.inj halted).symm⟩
    · intro s hs
      exact reconcile_of_halt?_eq_none (halt?_of_stops_eq_false (clear _ hs))
    · rw [Site.mapFirst, List.take_left, List.drop_left]
  · have strict := strict_of_ending_eq_conflict conflict
    rw [lenient] at strict
    cases strict

/-- A query of three parts under a policy for one tenant: a selector without matchers, one that asks
for another tenant, and an extension node. A strict policy stops at the second part and a lenient one
at the third. -/
theorem enforceRoot_stops_at_foreign_tenant :
    let own : Matcher := .equalTo "tenant" "acme" (by decide)
    let foreign : Matcher := .equalTo "tenant" "other" (by decide)
    let a : Selector := ⟨some "a", [], none⟩
    let b : Selector := ⟨some "b", [foreign], none⟩
    let root : Root := .expressions [.vector a, .vector b, .extension "lookup" [.vector a]]
    let strict := (forTenant true "acme").enforceRoot root
    let lenient := (forTenant false "acme").enforceRoot root
    strict.outcome = .conflict ⟨"tenant=\"other\"", "tenant=\"acme\""⟩ ∧
      strict.result.sites =
        [.selector { a with matchers := [own] }, .selector b, .extension "lookup"] ∧
      lenient.outcome = .unhandled "lookup" ∧
      lenient.result.sites = [.selector { a with matchers := [own] },
        .selector { b with matchers := [own] }, .extension "lookup"] ∧
      (∀ c, lenient.outcome ≠ .conflict c) ∧
      ((forTenant true "acme").enforceRoot (.expr (.vector a))).outcome = .done := by
  intro own foreign a b root strict lenient
  have strictly := enforceRoot_stops_at_first (forTenant true "acme") root
  have leniently := enforceRoot_stops_at_first (forTenant false "acme") root
  have alone := enforceRoot_stops_at_first (forTenant true "acme") (.expr (.vector a))
  have second := strictly.2.1 [.selector a] (.selector b) [.extension "lookup"] rfl (by decide)
    (by decide)
  have third := leniently.2.1 [.selector a, .selector b] (.extension "lookup") [] rfl (by decide)
    (by decide)
  obtain ⟨m, required, hm, hr, ends⟩ := second.2.1 b rfl
  have found : m = foreign := by
    rw [show b.matchers.find? (forTenant true "acme").contradicts = some foreign by decide] at hm
    exact (Option.some.inj hm).symm
  have wanted : required = own := by
    rw [found, show (forTenant true "acme").get? foreign.name = some own by decide] at hr
    exact (Option.some.inj hr).symm
  refine ⟨?_, ?_, third.1 "lookup" rfl, ?_, leniently.2.2 rfl, alone.1 (by decide)⟩
  · rw [ends, found, wanted]
    decide
  · rw [second.2.2.2.2]
    decide
  · rw [third.2.2.2.2]
    decide

end SelectorGuard.Policy
