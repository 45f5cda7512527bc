import SelectorGuard.Policy.Verdict
import SelectorGuard.Proofs.Matcher.Canonical
import Mathlib.Data.List.Nodup

/-!
# What reconciling does to a list of matchers

The code goes through the matchers one by one and compares canonical forms. Seen as a whole it does
one of two things. A strict policy names the first matcher that is on one of its labels but is not
the matcher that it requires there. Otherwise the result is the list without the matchers on labels
that have an equality requirement, followed by the required matchers.
-/

namespace SelectorGuard.Policy

/-- The policy that lets queries see one tenant only. -/
def forTenant (strict : Bool) (tenant : String) : Policy :=
  ofList strict [.equalTo "tenant" tenant (by decide)]

/-- No two required matchers are on one label, because the labels ascend strictly. -/
theorem nodup_labels (p : Policy) : (p.rules.map Matcher.name).Nodup := by
  refine List.pairwise_map.mpr (p.ascending.imp ?_)
  intro a b hab heq
  exact String.lt_irrefl b.name (heq ▸ hab)

/-- A label finds a matcher just if the policy requires this matcher and it is on the label. -/
theorem get?_eq_some_iff {p : Policy} {label : String} {r : Matcher} :
    p.get? label = some r ↔ r ∈ p.rules ∧ r.name = label := by
  constructor
  · intro h
    exact ⟨List.mem_of_find?_eq_some h, name_of_get? h⟩
  · rintro ⟨hr, rfl⟩
    cases found : p.get? r.name with
    | none =>
      have absent := List.find?_eq_none.mp found r hr
      simp only [beq_self_eq_true, not_true_eq_false] at absent
    | some q =>
      have hq : q ∈ p.rules := List.mem_of_find?_eq_some found
      have names : q.name = r.name := name_of_get? found
      rw [List.inj_on_of_nodup_map p.nodup_labels hq hr names]

/-- The policy has an equality requirement for a label. -/
def governs (p : Policy) (label : String) : Bool :=
  (p.get? label).any Matcher.isExclusive

/-- A label is governed just if one of the required matchers is an equality on it. -/
theorem governs_iff {p : Policy} {label : String} :
    p.governs label = true ↔ ∃ r ∈ p.rules, r.name = label ∧ r.kind = .equal := by
  simp only [governs, Option.any_eq_true, get?_eq_some_iff, Matcher.isExclusive, beq_iff_eq,
    and_assoc]

/-- A matcher is on a label of the policy, but is not what the policy requires there. -/
def contradicts (p : Policy) (m : Matcher) : Bool :=
  (p.get? m.name).any fun r => r.identity != m.identity

/-- A strict policy refuses the matchers that contradict it. -/
def refuses (p : Policy) (m : Matcher) : Bool :=
  p.strict && p.contradicts m

/-- The report on a matcher that is refused. -/
def conflictOn (p : Policy) (m : Matcher) : Conflict :=
  ⟨m.canonical, ((p.get? m.name).map Matcher.canonical).getD ""⟩

/-- Judging a matcher compares its parts with those of the required one. -/
theorem judge_eq (p : Policy) (m : Matcher) :
    p.judge m = if p.refuses m then .refuse (p.conflictOn m)
      else if p.governs m.name then .drop else .keep := by
  unfold judge refuses contradicts conflictOn governs
  cases p.get? m.name with
  | none => simp
  | some r =>
    have forms : (m.canonical != r.canonical) = (r.identity != m.identity) := by
      rw [Bool.eq_iff_iff, bne_iff_ne, bne_iff_ne, ne_eq, Matcher.canonical_eq_iff, ne_comm]
    simp [forms]

/-- Going through a list either meets a matcher that is refused, and reports the first one, or
leaves out those on labels with an equality requirement. -/
theorem retain_eq (p : Policy) (ms : List Matcher) :
    p.retain ms = match ms.find? p.refuses with
      | some m => .error (p.conflictOn m)
      | none => .ok (ms.filter fun m => !p.governs m.name) := by
  induction ms with
  | nil => rfl
  | cons m rest ih =>
    rw [retain, judge_eq, ih]
    cases hr : p.refuses m with
    | true => simp [hr]
    | false =>
      cases hg : p.governs m.name <;> cases hf : rest.find? p.refuses <;>
        simp [hr, hg, hf, Except.map]

/-- The matchers of a selector that satisfies a policy: its own ones on labels without an equality
requirement, then those of the policy. -/
def merged (p : Policy) (ms : List Matcher) : List Matcher :=
  ms.filter (fun m => !p.governs m.name) ++ p.rules

/-- Reconciling reports the first matcher that is refused, or gives the merged matchers. -/
theorem reconcile_eq (p : Policy) (ms : List Matcher) :
    p.reconcile ms = match ms.find? p.refuses with
      | some m => .error (p.conflictOn m)
      | none => .ok (p.merged ms) := by
  rw [reconcile, retain_eq]
  cases ms.find? p.refuses <;> rfl

/-- Every required matcher is among the merged ones. -/
theorem mem_merged_of_mem_rules {p : Policy} {r : Matcher} (h : r ∈ p.rules) (ms : List Matcher) :
    r ∈ p.merged ms :=
  List.mem_append_right _ h

end SelectorGuard.Policy
