import SelectorGuard.Proofs.Enforcement.Walk
import SelectorGuard.Proofs.Policy.Merging
import SelectorGuard.Proofs.Query.Counterpart

/-!
# Enforcing a policy repeatedly

A query on which a policy has been enforced satisfies it, so enforcing the policy again goes through.
It is not without effect: requirements that are no equalities are added once more each time. The
matchers of every selector are still the same ones, only more often, and if the policy requires
nothing but equalities the query stays as it is.
-/

namespace SelectorGuard.Policy

/-- A root after a policy has been enforced on it so many times, each time on what the time before
has left. -/
def enforceTimes (p : Policy) : Nat → Root → Root
  | 0, root => root
  | n + 1, root => (p.enforceRoot (p.enforceTimes n root)).result

variable {p : Policy} {root : Root}

/-- A site that lets a walk pass lets it pass again after it has been settled. -/
theorem halt?_map_settle_eq_none {x : Site} (passed : p.halt? x = none) :
    p.halt? (x.map p.settle) = none := by
  cases x with
  | selector s =>
    have clear := halt?_selector_eq_none_iff.mp passed
    exact halt?_selector_eq_none_iff.mpr fun m hm => refuses_eq_false_of_mem_merged clear hm
  | extension kind => cases passed

/-- After a walk that has gone through the next one goes through. -/
theorem outcome_result_eq_done (h : (p.enforceRoot root).outcome = .done) :
    (p.enforceRoot (p.enforceRoot root).result).outcome = .done := by
  refine ((outcomes_eq_done_iff root p).mpr fun x hx => ?_).2
  have passed := halt?_eq_none_of_done root h hx
  exact ⟨passed, halt?_map_settle_eq_none passed⟩

/-- If the first walk goes through, so does every later one. -/
theorem outcome_enforceTimes_eq_done (h : (p.enforceRoot root).outcome = .done) (n : Nat) :
    (p.enforceRoot (p.enforceTimes n root)).outcome = .done := by
  induction n with
  | zero => exact h
  | succ n ih => exact outcome_result_eq_done ih

/-- After the first walk and `n` more, every selector that is not shielded has gone through as many
rounds of merging. -/
theorem enforceTimes_eq_mapSelectors (h : (p.enforceRoot root).outcome = .done) (n : Nat) :
    p.enforceTimes (n + 1) root =
      root.mapSelectors fun s => { s with matchers := p.rounds n s.matchers } := by
  induction n with
  | zero =>
    simp only [rounds_zero]
    exact result_of_done root h
  | succ n ih =>
    rw [enforceTimes, result_of_done _ (outcome_enforceTimes_eq_done h (n + 1)), ih,
      Root.mapSelectors_mapSelectors]
    simp only [settle, merged_rounds]

/-- If enforcing a policy on a root goes through, it goes through every time that it is done again.
After the first time and `n` more a selector that is not shielded has the matchers of its own that
are on no label with an equality requirement, `n` copies of the requirements that are no equalities,
and all required matchers. So every selector has the matchers that it has after the first time, and
if all requirements are equalities, nothing changes any more. -/
theorem enforceTimes_grows_by_layers (p : Policy) (root : Root)
    (h : (p.enforceRoot root).outcome = .done) (n : Nat) :
    (p.enforceRoot (p.enforceTimes n root)).outcome = .done ∧
    List.Forall₂ (Entry.Becomes fun s t => t.name = s.name ∧ t.offset = s.offset ∧
        t.matchers = s.matchers.filter (fun m => !p.governs m.name) ++
          (List.replicate n (p.rules.filter fun r => !r.isExclusive)).flatten ++ p.rules)
      root.census (p.enforceTimes (n + 1) root).census ∧
    List.Forall₂ (fun s t => ∀ m, m ∈ t.matchers ↔ m ∈ s.matchers)
      (p.enforceTimes 1 root).selectors (p.enforceTimes (n + 1) root).selectors ∧
    ((∀ r ∈ p.rules, r.kind = .equal) → p.enforceTimes (n + 1) root = p.enforceTimes 1 root) := by
  have later := enforceTimes_eq_mapSelectors h n
  have once : p.enforceTimes 1 root = root.mapSelectors p.settle := result_of_done root h
  refine ⟨outcome_enforceTimes_eq_done h n, ?_, ?_, fun equalities => ?_⟩
  · rw [later]
    exact Root.forall₂_census_mapSelectors (extension_notMem_of_done root h)
      fun s _ => ⟨rfl, rfl, rfl⟩
  · rw [later, once]
    refine Root.Counterpart.forall₂_selectors (Root.counterpart_mapSelectors ?_ ?_ root)
    · exact fun s m => Iff.rfl
    · exact fun s m => mem_rounds_iff p
  · rw [later, once]
    simp only [rounds_eq_merged p equalities]
    rfl

/-- A strict policy for one tenant and against development, three times on a sum. The selector on the
left loses its matcher on the tenant to the required one and gets the other requirement three times;
the one on the right is shielded and stays. -/
theorem enforceTimes_three_times_on_sum :
    let own : Matcher := .equalTo "tenant" "acme" (by decide)
    let api : Matcher := .equalTo "job" "api" (by decide)
    let stage : Matcher := ⟨"stage", .notEqual, "dev", by decide, nofun⟩
    let shielded : Selector := ⟨some "b", [api], none⟩
    let root : Root := .expr (.binary .add (.vector ⟨some "a", [own, api], none⟩)
      (.matrix (.paren (.vector shielded)) (.ofSeconds 60)) false none)
    let p := ofList true [own, stage]
    (p.enforceRoot root).outcome = .done ∧ (p.enforceRoot (p.enforceTimes 2 root)).outcome = .done ∧
      ∃ t, (p.enforceTimes 3 root).census = [⟨.selector t, false⟩, ⟨.selector shielded, true⟩] ∧
        t.matchers = [api, stage, stage, stage, own] := by
  intro own api stage shielded root p
  have done : (p.enforceRoot root).outcome = .done := by decide
  have effect := enforceTimes_grows_by_layers p root done 2
  refine ⟨done, effect.1, ?_⟩
  generalize (p.enforceTimes 3 root).census = census at effect ⊢
  cases effect.2.1 with
  | cons left rest =>
    cases left with
    | visited grown =>
      cases rest with
      | cons right last =>
        cases right with
        | shielded site =>
          cases last
          exact ⟨_, rfl, grown.2.2.trans (by decide)⟩

end SelectorGuard.Policy
