import SelectorGuard.Enforcement
import SelectorGuard.Proofs.Policy.Reconcile
import SelectorGuard.Proofs.Query.Roots

/-!
# The walk as a whole

The code goes down the tree and comes back at the first site that stops it. Seen as a whole, a walk
looks at the sites in order: it ends as the first one that stops it says, and it has treated exactly
the selectors before this site. The induction over the tree is made here once; what a walk does to
expressions, lists and statements follows from the list of sites alone.
-/

namespace SelectorGuard.Policy

variable (p : Policy)

/-- What a selector becomes when a policy is enforced on it and does not refuse it. -/
def settle (s : Selector) : Selector :=
  { s with matchers := p.merged s.matchers }

/-- What a selector becomes depends on the required matchers only. -/
theorem settle_congr {p q : Policy} (h : p.rules = q.rules) : p.settle = q.settle := by
  have governed (label : String) : p.governs label = q.governs label := by
    rw [governs, governs, get?, get?, h]
  funext s
  simp only [settle, merged, governed, h]

/-- How a walk ends at a site, if it ends there. -/
def halt? : Site → Option Outcome
  | .selector s => (s.matchers.find? p.refuses).map fun m => .conflict (p.conflictOn m)
  | .extension kind => some (.unhandled kind)

/-- How a walk over sites ends. -/
def ending (sites : List Site) : Outcome :=
  (sites.findSome? p.halt?).getD .done

/-- How many sites a walk leaves behind before it ends. -/
def reach (sites : List Site) : Nat :=
  sites.findIdx fun x => (p.halt? x).isSome

/-- No site ends a walk as if there were nothing left to do. -/
theorem halt?_ne_done (x : Site) : p.halt? x ≠ some .done := by
  cases x with
  | selector s => cases h : s.matchers.find? p.refuses <;> simp [halt?, h]
  | extension kind => simp [halt?]

/-- A walk goes through just if no site ends it. -/
theorem ending_eq_done_iff {sites : List Site} :
    p.ending sites = .done ↔ ∀ x ∈ sites, p.halt? x = none := by
  rw [← List.findSome?_eq_none_iff, ending]
  cases h : sites.findSome? p.halt? with
  | none => simp
  | some o =>
    obtain ⟨x, -, hx⟩ := List.exists_of_findSome?_eq_some h
    have stops : o ≠ .done := fun hd => p.halt?_ne_done x (hd ▸ hx)
    simp [stops]

/-- A walk that goes through leaves all sites behind. -/
theorem reach_of_done {sites : List Site} (h : p.ending sites = .done) :
    p.reach sites = sites.length := by
  refine List.findIdx_eq_length.mpr fun x hx => ?_
  rw [(p.ending_eq_done_iff.mp h) x hx]
  rfl

/-- A walk that ends in one part ends there whatever follows, and else as the other part says. -/
theorem ending_append (sites more : List Site) : p.ending (sites ++ more) =
    if p.ending sites = .done then p.ending more else p.ending sites := by
  have through : p.ending sites = .done ↔ sites.findSome? p.halt? = none := by
    rw [List.findSome?_eq_none_iff, ending_eq_done_iff]
  unfold ending at through ⊢
  rw [List.findSome?_append]
  cases h : sites.findSome? p.halt? with
  | none => simp
  | some o =>
    have stops : ¬ (sites.findSome? p.halt?).getD .done = .done := by
      rw [through, h]
      exact Option.some_ne_none o
    rw [h] at stops
    rw [if_neg stops]
    rfl

/-- A walk that goes through one part leaves behind all of it and what it leaves behind of the
other part. -/
theorem reach_append (sites more : List Site) : p.reach (sites ++ more) =
    if p.ending sites = .done then sites.length + p.reach more else p.reach sites := by
  unfold reach
  rw [List.findIdx_append]
  by_cases h : p.ending sites = .done
  · have all := p.reach_of_done h
    unfold reach at all
    rw [if_pos h, if_neg (by omega), Nat.add_comm]
  · have some_stops : ∃ x ∈ sites, (p.halt? x).isSome = true := by
      rw [ending_eq_done_iff] at h
      push Not at h
      simpa only [Option.isSome_iff_ne_none] using h
    rw [if_neg h, if_pos (List.findIdx_lt_length.mpr some_stops)]

/-- A selector lets a walk pass just if none of its matchers is refused. -/
theorem halt?_selector_eq_none_iff {p : Policy} {s : Selector} :
    p.halt? (.selector s) = none ↔ ∀ m ∈ s.matchers, p.refuses m = false := by
  simp only [halt?, Option.map_eq_none_iff, List.find?_eq_none, Bool.not_eq_true]

/-- The matchers of a selector that does not end a walk are reconciled. -/
theorem reconcile_of_halt?_eq_none {p : Policy} {s : Selector} (h : p.halt? (.selector s) = none) :
    p.reconcile s.matchers = .ok (p.settle s).matchers := by
  rw [halt?, Option.map_eq_none_iff] at h
  rw [reconcile_eq, h]
  rfl

/-- Enforcing a policy on a selector is a walk over one site. -/
theorem enforceSelector_eq (s : Selector) : p.enforceSelector s =
    ⟨if p.reach [.selector s] = 0 then s else p.settle s, p.ending [.selector s]⟩ := by
  unfold enforceSelector reach ending
  rw [reconcile_eq, List.findIdx_singleton, List.findSome?_singleton, halt?]
  cases s.matchers.find? p.refuses <;> rfl

/-- Nothing happens to a range selector over something else than an instant selector. -/
theorem enforce_matrix_of_selector?_eq_none {body : Expr} (h : body.selector? = none)
    (range : Duration) : p.enforce (.matrix body range) = ⟨.matrix body range, .done⟩ := by
  cases body <;> first | rfl | cases h

end SelectorGuard.Policy

namespace SelectorGuard.Walked

variable {α β γ : Type}

/-- Walk on over a second part of a tree if the walk over the first part has gone through. -/
def next (first : Walked α) (join : α → β → γ) (rest : β) (second : Walked β) : Walked γ :=
  match first with
  | ⟨a, .done⟩ => second.map (join a)
  | ⟨a, stopped⟩ => ⟨join a rest, stopped⟩

/-- Two walks that each treat the sites that they leave behind do so as one walk over the sites of
both parts. The second part must not change when none of its sites is treated. -/
theorem next_eq (p : Policy) {treat : Nat → α → α} {treatRest : Nat → β → β} {sites more : List Site}
    (join : α → β → γ) {a : α} {b : β}
    (whole : ∀ n, sites.length ≤ n → treat n a = treat sites.length a)
    (untouched : treatRest 0 b = b) :
    next ⟨treat (p.reach sites) a, p.ending sites⟩ join b
        ⟨treatRest (p.reach more) b, p.ending more⟩ =
      ⟨join (treat (p.reach (sites ++ more)) a)
        (treatRest (p.reach (sites ++ more) - sites.length) b), p.ending (sites ++ more)⟩ := by
  rw [p.ending_append, p.reach_append]
  by_cases h : p.ending sites = .done
  · rw [if_pos h, if_pos h, p.reach_of_done h, h, Nat.add_sub_cancel_left,
      whole (sites.length + p.reach more) (Nat.le_add_right _ _)]
    rfl
  · have within : p.reach sites - sites.length = 0 := Nat.sub_eq_zero_of_le List.findIdx_le_length
    rw [if_neg h, if_neg h, within, untouched]
    unfold next
    split
    · next heq =>
      have ends : p.ending sites = .done := congrArg Walked.outcome heq
      exact absurd ends h
    · next heq =>
      cases heq
      rfl

end SelectorGuard.Walked

namespace SelectorGuard.Policy

open SelectorGuard.Expr

variable (p : Policy)

mutual

/-- Enforcing a policy on an expression goes through its sites in order: it ends as they say, and
the selectors that it leaves behind are settled. -/
theorem enforce_eq : ∀ e : Expr,
    p.enforce e = ⟨mapFirst p.settle (p.reach (sites e)) e, p.ending (sites e)⟩
  | .aggregate op body param grouping without => by
    have split : p.enforce (.aggregate op body param grouping without) =
        (p.enforce body).next (.aggregate op · · grouping without) param
          (p.enforceOption param) := by
      rw [enforce]
      obtain ⟨_, o⟩ := p.enforce body
      cases o <;> rfl
    rw [split, enforce_eq body, enforceOption_eq param]
    exact Walked.next_eq p (Expr.aggregate op · · grouping without)
      (fun n hn => mapFirst_eq_of_length_le p.settle hn (Nat.le_refl _)) (optionMapFirst_zero _ _)
  | .binary op lhs rhs returnBool matching => by
    have split : p.enforce (.binary op lhs rhs returnBool matching) =
        (p.enforce lhs).next (.binary op · · returnBool matching) rhs (p.enforce rhs) := by
      rw [enforce]
      obtain ⟨_, o⟩ := p.enforce lhs
      cases o <;> rfl
    rw [split, enforce_eq lhs, enforce_eq rhs]
    exact Walked.next_eq p (Expr.binary op · · returnBool matching)
      (fun n hn => mapFirst_eq_of_length_le p.settle hn (Nat.le_refl _)) (mapFirst_zero _ _)
  | .call _ args => by
    rw [enforce, enforceList_eq args]
    rfl
  | .subquery body _ _ _ => by
    rw [enforce, enforce_eq body]
    rfl
  | .paren body => by
    rw [enforce, enforce_eq body]
    rfl
  | .unary _ body => by
    rw [enforce, enforce_eq body]
    rfl
  | .number _ => rfl
  | .text _ => rfl
  | .matrix body range => by
    cases h : body.selector? with
    | none =>
      rw [p.enforce_matrix_of_selector?_eq_none h, mapFirst, sites, h]
      rfl
    | some s =>
      obtain rfl := eq_vector_of_selector? h
      rw [enforce, enforceSelector_eq]
      rfl
  | .vector s => by
    rw [enforce, enforceSelector_eq]
    rfl
  | .extension kind args => rfl

/-- Enforcing a policy on expressions goes through their sites in order. -/
theorem enforceList_eq : ∀ es : List Expr,
    p.enforceList es = ⟨listMapFirst p.settle (p.reach (listSites es)) es, p.ending (listSites es)⟩
  | [] => rfl
  | e :: rest => by
    have split : p.enforceList (e :: rest) =
        (p.enforce e).next (· :: ·) rest (p.enforceList rest) := by
      rw [enforceList]
      obtain ⟨_, o⟩ := p.enforce e
      cases o <;> rfl
    rw [split, enforce_eq e, enforceList_eq rest]
    exact Walked.next_eq p (· :: ·) (fun n hn => mapFirst_eq_of_length_le p.settle hn (Nat.le_refl _))
      (listMapFirst_zero _ _)

/-- Enforcing a policy on an expression that may be missing goes through its sites in order. -/
theorem enforceOption_eq : ∀ e : Option Expr,
    p.enforceOption e =
      ⟨optionMapFirst p.settle (p.reach (optionSites e)) e, p.ending (optionSites e)⟩
  | none => rfl
  | some e => by
    rw [enforceOption, enforce_eq e]
    rfl

end

/-- Enforcing a policy on a root goes through its sites in order. -/
theorem enforceRoot_eq (root : Root) : p.enforceRoot root =
    ⟨root.mapFirst p.settle (p.reach root.sites), p.ending root.sites⟩ := by
  cases root with
  | statement s =>
    rw [enforceRoot, enforceStatement, enforce_eq]
    rfl
  | expressions es =>
    rw [enforceRoot, enforceList_eq]
    rfl
  | expr e =>
    rw [enforceRoot, enforce_eq]
    rfl

variable {p} (root : Root)

/-- A walk goes through a root just if all its sites let it pass. -/
theorem enforceRoot_outcome_eq_done_iff :
    (p.enforceRoot root).outcome = .done ↔ ∀ x ∈ root.sites, p.halt? x = none := by
  rw [enforceRoot_eq]
  exact p.ending_eq_done_iff

/-- A walk that goes through a root has ended at none of its sites. -/
theorem halt?_eq_none_of_done (h : (p.enforceRoot root).outcome = .done) {x : Site}
    (hx : x ∈ root.sites) : p.halt? x = none :=
  (enforceRoot_outcome_eq_done_iff root).mp h x hx

/-- A walk that goes through a root has met no extension node. -/
theorem extension_notMem_of_done (h : (p.enforceRoot root).outcome = .done) (kind : String) :
    .extension kind ∉ root.sites := by
  intro hx
  have halted := halt?_eq_none_of_done root h hx
  cases halted

/-- A walk that goes through a root settles every selector that is not shielded. -/
theorem result_of_done (h : (p.enforceRoot root).outcome = .done) :
    (p.enforceRoot root).result = root.mapSelectors p.settle := by
  have ends : p.ending root.sites = .done := by rwa [enforceRoot_eq] at h
  rw [← Root.mapFirst_eq_mapSelectors p.settle (extension_notMem_of_done root h),
    ← p.reach_of_done ends, enforceRoot_eq]

/-- A walk that goes through a root settles all its sites. -/
theorem sites_result_of_done (h : (p.enforceRoot root).outcome = .done) :
    (p.enforceRoot root).result.sites = root.sites.map (Site.map p.settle) := by
  rw [result_of_done root h, Root.sites_mapSelectors p.settle (extension_notMem_of_done root h)]

/-- Two walks go through a root, one after the other, just if all its sites let the first one pass
and, after it has settled them, the second one too. -/
theorem outcomes_eq_done_iff (q : Policy) :
    (p.enforceRoot root).outcome = .done ∧
        (q.enforceRoot (p.enforceRoot root).result).outcome = .done ↔
      ∀ x ∈ root.sites, p.halt? x = none ∧ q.halt? (x.map p.settle) = none := by
  rw [forall₂_and, ← enforceRoot_outcome_eq_done_iff]
  refine and_congr_right fun h => ?_
  rw [enforceRoot_outcome_eq_done_iff, sites_result_of_done root h, List.forall_mem_map]

/-- A walk that goes through a root has reconciled the matchers of everything that is not
shielded. -/
theorem reconcile_of_done (h : (p.enforceRoot root).outcome = .done) {c : Entry}
    (hc : c ∈ root.census) (open_ : c.shielded = false) :
    ∃ s, c.site = .selector s ∧ p.reconcile s.matchers = .ok (p.settle s).matchers := by
  have met := Root.mem_sites_of_mem_census open_ (extension_notMem_of_done root h) hc
  have halted := halt?_eq_none_of_done root h met
  cases site : c.site with
  | selector s => exact ⟨s, rfl, reconcile_of_halt?_eq_none (site ▸ halted)⟩
  | extension kind =>
    rw [site] at halted
    cases halted

end SelectorGuard.Policy
