import SelectorGuard.Proofs.Enforcement.Walk
import SelectorGuard.Proofs.Policy.ByLabel
import SelectorGuard.Proofs.Query.Legible

/-!
# Metric names beside equality requirements

A selector can say in two ways which metrics it is about: by the name in front of its braces and by
matchers on the label `__name__`. Query text knows both, and a name that is not legal in front of
the braces is written as the first constraint between them. A policy looks at the matchers alone. So
an equality requirement is the only matcher on its label after a walk, but if it is on `__name__`,
then a metric name stands beside it, and a strict policy lets one pass that says something else.
-/

namespace SelectorGuard

/-- An equality on the label `__name__` is what a metric name amounts to just if it has this name as
its operand. -/
theorem Matcher.ofMetric_eq_iff {r : Matcher} (equality : r.kind = .equal)
    (label : r.name = "__name__") {name : String} : ofMetric name = r ↔ name = r.value := by
  rw [← identity_inj, identity, identity, equality, label, Prod.mk.injEq, Prod.mk.injEq]
  exact ⟨fun same => same.2.2, fun same => ⟨rfl, rfl, same⟩⟩

namespace Selector

/-- A metric name amounts to a constraint on `__name__` and on no other label. -/
theorem mem_onLabel_constraints_iff {s : Selector} {label : String} {c : Matcher} :
    c ∈ Matcher.onLabel label s.constraints ↔
      (label = "__name__" ∧ ∃ name ∈ s.name, c = .ofMetric name) ∨
        c ∈ Matcher.onLabel label s.matchers := by
  have named : c ∈ Matcher.onLabel label (s.name.map Matcher.ofMetric).toList ↔
      label = "__name__" ∧ ∃ name ∈ s.name, c = .ofMetric name := by
    rw [Matcher.onLabel, List.mem_filter, Option.mem_toList, Option.map_eq_some_iff, beq_iff_eq]
    constructor
    · rintro ⟨⟨name, hn, rfl⟩, own⟩
      exact ⟨own.symm, name, hn, rfl⟩
    · rintro ⟨rfl, name, hn, rfl⟩
      exact ⟨⟨name, hn, rfl⟩, rfl⟩
  rw [constraints, Matcher.onLabel_append, List.mem_append, named]

end Selector

namespace Policy

variable {p : Policy}

/-- What is not shielded in a root after a walk that has gone through it are settled selectors of
the root. -/
theorem exists_settle_of_mem_census {root : Root} (h : (p.enforceRoot root).outcome = .done)
    {t : Selector} (ht : ⟨.selector t, false⟩ ∈ (p.enforceRoot root).result.census) :
    ∃ s, ⟨.selector s, false⟩ ∈ root.census ∧ t = p.settle s := by
  rw [result_of_done root h, Root.census_mapSelectors] at ht
  obtain ⟨⟨site, shielded⟩, hc, treated⟩ := List.mem_map.mp ht
  cases shielded with
  | true => cases treated
  | false =>
    cases site with
    | extension kind => cases treated
    | selector s =>
      cases treated
      exact ⟨s, hc, rfl⟩

/-- An equality requirement is the only matcher of a settled selector on its label. -/
theorem onLabel_settle_of_equality {label : String} {r : Matcher} (required : p.get? label = some r)
    (equality : r.kind = .equal) (s : Selector) :
    Matcher.onLabel label (p.settle s).matchers = [r] := by
  have governed : p.governs label = true := by
    rw [governs_of_get? required, Matcher.isExclusive, equality]
    rfl
  rw [settle, onLabel_merged, governed, required]
  rfl

/-- An equality requirement is the only constraint on its label just if the label is not `__name__`
or the metric name, if there is one, is the required value. -/
theorem forall_onLabel_constraints_iff {label : String} {r : Matcher}
    (required : p.get? label = some r) (equality : r.kind = .equal) {t : Selector}
    (alone : Matcher.onLabel label t.matchers = [r]) :
    (∀ c ∈ Matcher.onLabel label t.constraints, c = r) ↔
      (label = "__name__" → ∀ name ∈ t.name, name = r.value) := by
  have own : r.name = label := name_of_get? required
  simp only [Selector.mem_onLabel_constraints_iff, alone, List.mem_singleton]
  constructor
  · rintro all rfl name hn
    exact (Matcher.ofMetric_eq_iff equality own).mp (all _ (.inl ⟨rfl, name, hn, rfl⟩))
  · rintro agrees c (⟨rfl, name, hn, rfl⟩ | rfl)
    · exact (Matcher.ofMetric_eq_iff equality own).mpr (agrees rfl name hn)
    · rfl

/-- Whether a walk with a policy, strict or not, goes through a root is decided by the matchers that
it meets, whatever the metric names are. If it does, an equality requirement is the only matcher on
its label in every selector that is not shielded. It is the only constraint there as well, the
metric name counted as one on `__name__`, just if it is not on `__name__` or the metric name agrees
with it. Where the metric name cannot stand in front of the braces, all these constraints are what
is written between them. -/
theorem equality_alone_iff_metric_agrees (p : Policy) (root : Root) :
    ((p.enforceRoot root).outcome = .done ↔ (∀ kind, .extension kind ∉ root.sites) ∧
      ∀ s, .selector s ∈ root.sites → ∀ m ∈ s.matchers, p.refuses m = false) ∧
    ((p.enforceRoot root).outcome = .done →
      ∀ t, ⟨.selector t, false⟩ ∈ (p.enforceRoot root).result.census →
        (∀ label r, p.get? label = some r → r.kind = .equal →
          Matcher.onLabel label t.matchers = [r] ∧
          ((∀ c ∈ Matcher.onLabel label t.constraints, c = r) ↔
            (label = "__name__" → ∀ name ∈ t.name, name = r.value))) ∧
        ((∀ name ∈ t.name, ¬ Label.isMetricName name = true) →
          t.bodyChars = '{' :: commaSeparated (t.constraints.map Matcher.chars) ++ ['}'])) := by
  refine ⟨?_, fun done t ht => ⟨fun label r required equality => ?_,
    Selector.bodyChars_eq_constraints⟩⟩
  · constructor
    · intro done
      exact ⟨extension_notMem_of_done root done, fun s hs =>
        halt?_selector_eq_none_iff.mp (halt?_eq_none_of_done root done hs)⟩
    · rintro ⟨known, clear⟩
      refine (enforceRoot_outcome_eq_done_iff root).mpr fun x hx => ?_
      cases x with
      | selector s => exact halt?_selector_eq_none_iff.mpr (clear s hx)
      | extension kind => exact absurd hx (known kind)
  · obtain ⟨s, -, rfl⟩ := exists_settle_of_mem_census done ht
    -- The walk leaves the metric name; the matchers on the label are the requirement alone.
    have alone := onLabel_settle_of_equality required equality s
    exact ⟨alone, forall_onLabel_constraints_iff required equality alone⟩

/-- A strict policy with equality requirements on the metric and the tenant goes through two
selectors. The name of the first one is the required metric, and the requirement is the only
constraint on `__name__`. The name of the second one is another metric, and it is not. The
requirement on the tenant is the only constraint on its label in both. -/
theorem equality_alone_iff_metric_agrees_on_two_metrics :
    let own : Matcher := .equalTo "tenant" "acme" (by decide)
    let up : Matcher := .ofMetric "up"
    let p := ofList true [own, up]
    let root : Root :=
      .expressions [.vector ⟨some "up", [own], none⟩, .vector ⟨some "web", [], none⟩]
    let t : Selector := ⟨some "up", [up, own], none⟩
    let u : Selector := ⟨some "web", [up, own], none⟩
    (p.enforceRoot root).outcome = .done ∧
      (p.enforceRoot root).result.census = [⟨.selector t, false⟩, ⟨.selector u, false⟩] ∧
      (∀ c ∈ Matcher.onLabel "__name__" t.constraints, c = up) ∧
      (¬ ∀ c ∈ Matcher.onLabel "__name__" u.constraints, c = up) ∧
      (∀ c ∈ Matcher.onLabel "tenant" t.constraints, c = own) ∧
      ∀ c ∈ Matcher.onLabel "tenant" u.constraints, c = own := by
  intro own up p root t u
  have done : (p.enforceRoot root).outcome = .done := by decide
  have census : (p.enforceRoot root).result.census =
      [⟨.selector t, false⟩, ⟨.selector u, false⟩] := by decide
  have effect := (equality_alone_iff_metric_agrees p root).2 done
  have first := (effect t (by rw [census]; decide)).1
  have second := (effect u (by rw [census]; decide)).1
  refine ⟨done, census, ?_, ?_, ?_, ?_⟩
  · refine (first "__name__" up (by decide) rfl).2.mpr ?_
    simp [t, up, Matcher.ofMetric, Matcher.equalTo]
  · refine mt (second "__name__" up (by decide) rfl).2.mp ?_
    simp [u, up, Matcher.ofMetric, Matcher.equalTo]
  · exact (first "tenant" own (by decide) rfl).2.mpr (by decide)
  · exact (second "tenant" own (by decide) rfl).2.mpr (by decide)

/-- A strict policy that requires one metric goes through a selector with the name of another one.
It puts its requirement behind the name, so what is written holds two equalities on `__name__` that
contradict each other. The same text may stand for a selector whose matcher names the other metric,
and on this selector the policy reports the conflict. -/
theorem enforceRoot_lets_other_metric_pass :
    let up : Matcher := .ofMetric "up"
    let other : Matcher := .ofMetric "a b"
    let p := ofList true [up]
    let named : Expr := .vector ⟨some "a b", [], none⟩
    let matched : Expr := .vector ⟨none, [other], none⟩
    let t : Selector := ⟨some "a b", [up], none⟩
    p.get? "__name__" = some up ∧ up.kind = .equal ∧
      (p.enforceRoot (.expr named)).outcome = .done ∧
      (p.enforceRoot (.expr named)).result.census = [⟨.selector t, false⟩] ∧
      Matcher.onLabel "__name__" t.constraints = [other, up] ∧ other ≠ up ∧
      t.render = "\x7b__name__=\"a b\", __name__=\"up\"\x7d" ∧
      named.render = matched.render ∧
      (p.enforceRoot (.expr matched)).outcome =
        .conflict ⟨"__name__=\"a b\"", "__name__=\"up\""⟩ := by
  decide +kernel

end Policy

end SelectorGuard
