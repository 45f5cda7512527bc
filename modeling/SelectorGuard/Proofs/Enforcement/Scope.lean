import SelectorGuard.Proofs.Enforcement.Effect

/-!
# What an enforced query can select

After a walk has gone through, every selector that is not shielded carries all matchers of the
policy, and no extension node is left outside a shield. In a query in which nothing is shielded a
selector accepts the series that the policy accepts and that its own matchers accept, those set
aside on whose label the policy has an equality requirement.
-/

namespace SelectorGuard

/-- Treating the selectors of a plain expression treats every selector in its list. -/
theorem Expr.selectors_mapSelectors (f : Selector → Selector) {e : Expr} (plain : e.isPlain = true) :
    (e.mapSelectors f).selectors = e.selectors.map f := by
  have entries := Expr.census_mapSelectors f e
  rw [Expr.census_of_isPlain plain, List.map_map] at entries
  rw [← Expr.filterMap_census false, entries, List.filterMap_map]
  exact congrFun List.filterMap_eq_map e.selectors

namespace Policy

/-- A settled selector accepts the series that the policy accepts and that its own matchers accept,
apart from those on labels with an equality requirement. -/
theorem accepts_settle_iff (p : Policy) (s : Selector) (value : String → String) :
    (p.settle s).accepts value = true ↔
      (∀ r ∈ p.rules, r.accepts (value r.name) = true) ∧
        ∀ m ∈ s.matchers, (¬ ∃ r ∈ p.rules, r.name = m.name ∧ r.kind = .equal) →
          m.accepts (value m.name) = true := by
  simp only [Selector.accepts, settle, merged, List.all_append, Bool.and_eq_true, List.all_eq_true,
    List.mem_filter, Bool.not_eq_true', ← Bool.not_eq_true, governs_iff, and_imp]
  exact and_comm

/-- A walk over an expression that goes through settles every selector that is not shielded. -/
theorem enforce_result_of_done {p : Policy} {e : Expr} (h : (p.enforce e).outcome = .done) :
    (p.enforce e).result = e.mapSelectors p.settle :=
  Root.expr.inj (result_of_done (.expr e) h)

/-- When a policy, strict or not, has been enforced on a query without extension nodes whose range
selectors are built from instant selectors, then a selector accepts a series just if all required
matchers accept it and so does every matcher that the selector had before on a label without an
equality requirement. No selector accepts a series that the policy rejects. A label that a series
lacks has the empty value. -/
theorem enforce_scopes_selectors (p : Policy) (e : Expr) (plain : e.isPlain = true)
    (h : (p.enforce e).outcome = .done) :
    List.Forall₂ (fun s t => t.name = s.name ∧ t.offset = s.offset ∧ ∀ value : String → String,
        (t.accepts value = true ↔
          (∀ r ∈ p.rules, r.accepts (value r.name) = true) ∧
            ∀ m ∈ s.matchers, (¬ ∃ r ∈ p.rules, r.name = m.name ∧ r.kind = .equal) →
              m.accepts (value m.name) = true))
      e.selectors (p.enforce e).result.selectors ∧
    ∀ t ∈ (p.enforce e).result.selectors, ∀ value : String → String,
      (∃ r ∈ p.rules, r.accepts (value r.name) = false) → t.accepts value = false := by
  have selectors := Expr.selectors_mapSelectors p.settle plain
  rw [← enforce_result_of_done h] at selectors
  rw [selectors]
  constructor
  · rw [List.forall₂_map_right_iff, List.forall₂_same]
    intro s _
    exact ⟨rfl, rfl, p.accepts_settle_iff s⟩
  · intro t ht value rejected
    obtain ⟨s, -, rfl⟩ := List.mem_map.mp ht
    obtain ⟨r, hr, rejects⟩ := rejected
    rw [Bool.eq_false_iff]
    intro accepted
    have accepts := ((p.accepts_settle_iff s value).mp accepted).1 r hr
    rw [rejects] at accepts
    cases accepts

/-- A sum over a minute of another tenant's series: once the policy for one tenant has been enforced
on it, no selector of it accepts a series of the other tenant, and its own series are accepted. -/
theorem enforce_scopes_sum_over_minute :
    let foreign : Matcher := .equalTo "tenant" "other" (by decide)
    let e : Expr := .aggregate .topk
      (.call "rate" [.matrix (.vector ⟨some "a", [foreign], none⟩) (.ofSeconds 60)])
      (some (.vector ⟨some "limit", [], none⟩)) ["job"] false
    let w := (forTenant false "acme").enforce e
    e.isPlain = true ∧ w.outcome = .done ∧
      (∀ t ∈ w.result.selectors, t.accepts (fun _ => "other") = false) ∧
      ∃ t ∈ w.result.selectors, t.accepts (fun _ => "acme") = true := by
  intro foreign e w
  have plain : e.isPlain = true := rfl
  have done : w.outcome = .done := by decide
  have effect := enforce_scopes_selectors (forTenant false "acme") e plain done
  refine ⟨plain, done, fun t ht => effect.2 t ht _ (by decide), ?_⟩
  cases effect.1 with
  | cons first _ => exact ⟨_, List.mem_cons_self, (first.2.2 _).mpr (by decide)⟩

/-- What is not shielded in a query on which a policy has been enforced is an instant selector that
carries every matcher of the policy. An extension node is left, at any depth, only beneath a range
selector over something else than an instant selector, and so is a selector that lacks a matcher of
the policy. -/
theorem enforce_covers_unshielded (p : Policy) (e : Expr) (h : (p.enforce e).outcome = .done) :
    ((p.enforce e).result.census false).filterMap Entry.selector? =
      (p.enforce e).result.selectors ∧
    ∀ c ∈ (p.enforce e).result.census false, c.shielded = false →
      ∃ s, c.site = .selector s ∧ ∀ r ∈ p.rules, r ∈ s.matchers := by
  refine ⟨Expr.filterMap_census false _, ?_⟩
  rw [enforce_result_of_done h, Expr.census_mapSelectors]
  intro c hc open_
  obtain ⟨d, hd, rfl⟩ := List.mem_map.mp hc
  have before : d.shielded = false := by
    cases hs : d.shielded with
    | false => rfl
    | true => rwa [Entry.map, if_pos hs, hs] at open_
  obtain ⟨s, site, -⟩ := reconcile_of_done (.expr e) h hd before
  refine ⟨p.settle s, ?_, fun r hr => mem_merged_of_mem_rules hr s.matchers⟩
  rw [Entry.map, before, site]
  rfl

/-- A range selector over parentheses shields the selector in them, whose tenant stays the foreign
one, but not the selector beside it. -/
theorem enforce_covers_beside_shield :
    let foreign : Matcher := .equalTo "tenant" "other" (by decide)
    let e : Expr := .binary .add (.vector ⟨some "a", [foreign], none⟩)
      (.matrix (.paren (.vector ⟨some "b", [foreign], none⟩)) (.ofSeconds 60)) false none
    let w := (forTenant false "acme").enforce e
    w.outcome = .done ∧ (w.result.census false).map Entry.shielded = [false, true] ∧
      ∀ c ∈ w.result.census false, c.shielded = false →
        ∃ s, c.site = .selector s ∧ ∀ r ∈ (forTenant false "acme").rules, r ∈ s.matchers := by
  intro foreign e w
  have done : w.outcome = .done := by decide
  exact ⟨done, by decide, (enforce_covers_unshielded (forTenant false "acme") e done).2⟩

/-- Documents can hold range selectors over parentheses and over extension nodes. A strict policy
goes through both, so a selector without its matcher and an extension node are left. -/
theorem enforce_leaves_shielded_as_read :
    (∃ e, Expr.ofText
          "[\"matrix_selector\",[\"paren\",[\"vector_selector\",\"up\"]],[60,0]]" = .ok e ∧
        ((forTenant true "acme").enforce e).outcome = .done ∧
        ∃ s ∈ ((forTenant true "acme").enforce e).result.selectors,
          ∃ r ∈ (forTenant true "acme").rules, r ∉ s.matchers) ∧
      ∃ e, Expr.ofText "[\"matrix_selector\",[\"extension\",\"lookup\"],[60,0]]" = .ok e ∧
        ((forTenant true "acme").enforce e).outcome = .done ∧
        ∃ c ∈ ((forTenant true "acme").enforce e).result.census false,
          c.site = .extension "lookup" := by
  constructor
  · apply Expr.exists_read_of_any
    decide +kernel
  · apply Expr.exists_read_of_any
    decide +kernel

end Policy

end SelectorGuard
