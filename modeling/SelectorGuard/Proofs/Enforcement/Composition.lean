import SelectorGuard.Proofs.Enforcement.Walk
import SelectorGuard.Proofs.Policy.Combination
import SelectorGuard.Proofs.Query.Counterpart

/-!
# Enforcing two policies

Two policies with no label in common can be enforced one after the other in either order, or at once
as the policy that requires what both require. The three ways go through the same queries. They can
differ in the conflict that they report and in the order in which the matchers of a selector come
out, but not in what the selectors accept.
-/

namespace SelectorGuard

/-- Every selector has the same matchers as itself. -/
theorem Selector.Reordered.refl (s : Selector) : s.Reordered s :=
  ⟨rfl, rfl, .refl _⟩

/-- Roots that differ in the order of matchers only have selectors that accept the same series. -/
theorem Root.Counterpart.map_accepts_eq {root other : Root}
    (h : root.Counterpart Selector.Reordered other) (value : String → String) :
    root.selectors.map (·.accepts value) = other.selectors.map (·.accepts value) := by
  rw [← List.forall₂_eq_eq_eq, List.forall₂_map_left_iff, List.forall₂_map_right_iff]
  exact h.forall₂_selectors.imp fun s t reordered => reordered.accepts_eq value

namespace Policy

section

variable {p q r : Policy} (both : r.rules.Perm (p.rules ++ q.rules)) (apart : p.Apart q)
  (first : r.strict = p.strict) (second : r.strict = q.strict)

include both apart first second

/-- Two policies let a site pass, one after the other, just if their union lets it pass. -/
theorem halt?_map_settle_iff (x : Site) :
    p.halt? x = none ∧ q.halt? (x.map p.settle) = none ↔ r.halt? x = none := by
  cases x with
  | selector s =>
    rw [Site.map, halt?_selector_eq_none_iff, halt?_selector_eq_none_iff, halt?_selector_eq_none_iff]
    exact refuses_merged_iff both apart first second s.matchers
  | extension kind =>
    constructor
    · rintro ⟨passed, -⟩
      cases passed
    · intro passed
      cases passed

/-- Walks under two policies, one after the other, go through just if a walk under their union does. -/
theorem outcomes_eq_done_iff_union (root : Root) :
    (p.enforceRoot root).outcome = .done ∧
        (q.enforceRoot (p.enforceRoot root).result).outcome = .done ↔
      (r.enforceRoot root).outcome = .done := by
  rw [outcomes_eq_done_iff, enforceRoot_outcome_eq_done_iff]
  exact forall₂_congr fun x _ => halt?_map_settle_iff both apart first second x

/-- If a walk under the union of two policies goes through, walks under the policies one after the
other settle every selector with both. -/
theorem result_result_of_done {root : Root} (h : (r.enforceRoot root).outcome = .done) :
    (q.enforceRoot (p.enforceRoot root).result).result =
      root.mapSelectors fun s => q.settle (p.settle s) := by
  obtain ⟨hp, hq⟩ := (outcomes_eq_done_iff_union both apart first second root).mpr h
  rw [result_of_done _ hq, result_of_done root hp, Root.mapSelectors_mapSelectors]

/-- Walks under two policies, one after the other, bring out what a walk under their union does, up to
the order of matchers. -/
theorem counterpart_union {root : Root} (h : (r.enforceRoot root).outcome = .done) :
    Root.Counterpart Selector.Reordered (q.enforceRoot (p.enforceRoot root).result).result
      (r.enforceRoot root).result := by
  rw [result_result_of_done both apart first second h, result_of_done root h]
  have merged := merged_merged_perm both apart
  exact Root.counterpart_mapSelectors .refl (fun s => ⟨rfl, rfl, merged s.matchers⟩) root

end

/-- Two policies of one strictness with no label in common. Enforcing the first one and then the
second goes through a root just if this does so in the other order, and just if enforcing the policy
with the matchers of both does. If it goes through, the three roots that come out are the same up to
the order of the matchers of each selector, and their selectors accept the same series. -/
theorem enforceRoot_commutes (p q : Policy) (root : Root) (flags : p.strict = q.strict)
    (apart : ∀ a ∈ p.rules, ∀ b ∈ q.rules, a.name ≠ b.name) :
    let pq := q.enforceRoot (p.enforceRoot root).result
    let qp := p.enforceRoot (q.enforceRoot root).result
    let both := (ofList p.strict (p.rules ++ q.rules)).enforceRoot root
    ((p.enforceRoot root).outcome = .done ∧ pq.outcome = .done ↔
        (q.enforceRoot root).outcome = .done ∧ qp.outcome = .done) ∧
      ((p.enforceRoot root).outcome = .done ∧ pq.outcome = .done ↔ both.outcome = .done) ∧
      (both.outcome = .done →
        Root.Counterpart Selector.Reordered pq.result qp.result ∧
        Root.Counterpart Selector.Reordered pq.result both.result ∧
        Root.Counterpart Selector.Reordered qp.result both.result ∧
        ∀ value : String → String,
          pq.result.selectors.map (·.accepts value) = both.result.selectors.map (·.accepts value) ∧
          qp.result.selectors.map (·.accepts value) =
            both.result.selectors.map (·.accepts value)) := by
  intro pq qp both
  have rules : (p.union q).rules.Perm (p.rules ++ q.rules) := Apart.rules_union_perm apart
  have swapped : (p.union q).rules.Perm (q.rules ++ p.rules) := rules.trans List.perm_append_comm
  have first : (p.union q).strict = p.strict := strict_ofList _ _
  have second : (p.union q).strict = q.strict := first.trans flags
  have forth := outcomes_eq_done_iff_union rules apart first second root
  have back := outcomes_eq_done_iff_union swapped (Apart.symm apart) second first root
  refine ⟨forth.trans back.symm, forth, fun done => ?_⟩
  have pq_both := counterpart_union rules apart first second done
  have qp_both := counterpart_union swapped (Apart.symm apart) second first done
  have pq_qp : Root.Counterpart Selector.Reordered pq.result qp.result := by
    have pq_result : pq.result = _ := result_result_of_done rules apart first second done
    have qp_result : qp.result = _ :=
      result_result_of_done swapped (Apart.symm apart) second first done
    have pq_merged := merged_merged_perm rules apart
    have qp_merged := merged_merged_perm swapped (Apart.symm apart)
    rw [pq_result, qp_result]
    exact Root.counterpart_mapSelectors .refl
      (fun s => ⟨rfl, rfl, (pq_merged s.matchers).trans (qp_merged s.matchers).symm⟩) root
  exact ⟨pq_qp, pq_both, qp_both, fun value =>
    ⟨pq_both.map_accepts_eq value, qp_both.map_accepts_eq value⟩⟩

/-- One strict policy for a tenant, and one for a zone and against development. The query asks for
the tenant itself, so all three ways go through. The required matchers come out in three different
orders. -/
theorem enforceRoot_commutes_on_tenant_and_zone :
    let own : Matcher := .equalTo "tenant" "acme" (by decide)
    let zone : Matcher := .equalTo "zone" "eu" (by decide)
    let stage : Matcher := ⟨"stage", .notEqual, "dev", by decide, nofun⟩
    let api : Matcher := .equalTo "job" "api" (by decide)
    let p := ofList true [own]
    let q := ofList true [zone, stage]
    let root : Root := .expr (.call "rate" [.matrix (.vector ⟨some "up", [own, api], none⟩)
      (.ofSeconds 60)])
    let pq := q.enforceRoot (p.enforceRoot root).result
    let qp := p.enforceRoot (q.enforceRoot root).result
    let both := (ofList p.strict (p.rules ++ q.rules)).enforceRoot root
    p.strict = q.strict ∧ (∀ a ∈ p.rules, ∀ b ∈ q.rules, a.name ≠ b.name) ∧
      both.outcome = .done ∧ pq.outcome = .done ∧ qp.outcome = .done ∧
      pq.result.selectors.map Selector.matchers = [[api, own, stage, zone]] ∧
      qp.result.selectors.map Selector.matchers = [[api, stage, zone, own]] ∧
      both.result.selectors.map Selector.matchers = [[api, stage, own, zone]] ∧
      Root.Counterpart Selector.Reordered pq.result both.result ∧
      Root.Counterpart Selector.Reordered qp.result both.result := by
  intro own zone stage api p q root pq qp both
  have flags : p.strict = q.strict := by decide
  have apart : ∀ a ∈ p.rules, ∀ b ∈ q.rules, a.name ≠ b.name := by decide
  have done : both.outcome = .done := by decide
  have laws := enforceRoot_commutes p q root flags apart
  have pq_done := laws.2.1.mpr done
  have qp_done := laws.1.mp pq_done
  have same := laws.2.2 done
  exact ⟨flags, apart, done, pq_done.2, qp_done.2, by decide, by decide, by decide, same.2.1,
    same.2.2.1⟩

end Policy

end SelectorGuard
