import SelectorGuard.Proofs.Policy.Assembly
import SelectorGuard.Proofs.Policy.Merging

/-!
# Merging with two policies

Two policies that say nothing about each other's labels do not get in each other's way: what the
first one adds is neither dropped nor refused by the second one. Merging with both, in either order,
is merging with the policy that requires what both require, up to the order of the matchers.
-/

namespace SelectorGuard.Policy

/-- Two policies have no label in common. -/
def Apart (p q : Policy) : Prop :=
  ∀ a ∈ p.rules, ∀ b ∈ q.rules, a.name ≠ b.name

/-- Having no label in common does not depend on the order. -/
theorem Apart.symm {p q : Policy} (h : p.Apart q) : q.Apart p :=
  fun b hb a ha => (h a ha b hb).symm

/-- A policy governs no label of a policy that it is apart from. -/
theorem Apart.governs_eq_false {p q : Policy} (h : p.Apart q) {a : Matcher} (ha : a ∈ p.rules) :
    q.governs a.name = false := by
  rw [← Bool.not_eq_true, governs_iff]
  rintro ⟨b, hb, names, -⟩
  exact h a ha b hb names.symm

/-- A policy contradicts no matcher of a policy that it is apart from. -/
theorem Apart.contradicts_eq_false {p q : Policy} (h : p.Apart q) {a : Matcher} (ha : a ∈ p.rules) :
    q.contradicts a = false :=
  contradicts_eq_false_iff.mpr fun b hb names => absurd names.symm (h a ha b hb)

/-- The policy that requires what two policies require. -/
def union (p q : Policy) : Policy :=
  ofList p.strict (p.rules ++ q.rules)

/-- If two policies have no label in common, their union drops none of their matchers. -/
theorem Apart.rules_union_perm {p q : Policy} (h : p.Apart q) :
    (p.union q).rules.Perm (p.rules ++ q.rules) := by
  refine rules_ofList_perm p.strict ?_
  rw [List.map_append, List.nodup_append]
  refine ⟨p.nodup_labels, q.nodup_labels, ?_⟩
  rintro _ hp _ hq
  obtain ⟨a, ha, rfl⟩ := List.mem_map.mp hp
  obtain ⟨b, hb, rfl⟩ := List.mem_map.mp hq
  exact h a ha b hb

section

variable {p q r : Policy} (both : r.rules.Perm (p.rules ++ q.rules))

include both

/-- A label is governed by a union just if one of the policies governs it. -/
theorem governs_of_perm (label : String) :
    r.governs label = (p.governs label || q.governs label) := by
  rw [Bool.eq_iff_iff, Bool.or_eq_true]
  simp only [governs_iff, both.mem_iff, List.mem_append, or_and_right, exists_or]

/-- A matcher contradicts a union just if it contradicts one of the policies. -/
theorem contradicts_of_perm (m : Matcher) :
    r.contradicts m = (p.contradicts m || q.contradicts m) := by
  rw [Bool.eq_iff_iff, Bool.or_eq_true]
  simp only [contradicts_iff, both.mem_iff, List.mem_append, or_and_right, exists_or]

/-- A union keeps what both policies keep. -/
theorem kept_of_perm (ms : List Matcher) : r.kept ms = q.kept (p.kept ms) := by
  rw [kept, kept, kept, List.filter_filter]
  refine List.filter_congr fun m _ => ?_
  rw [governs_of_perm both, Bool.not_or, Bool.and_comm]

/-- Merging with two policies one after the other gives the matchers that merging with their union
gives, in another order. -/
theorem merged_merged_perm (apart : p.Apart q) (ms : List Matcher) :
    (q.merged (p.merged ms)).Perm (r.merged ms) := by
  have undisturbed : q.kept p.rules = p.rules :=
    List.filter_eq_self.mpr fun a ha => by rw [apart.governs_eq_false ha, Bool.not_false]
  calc q.merged (p.merged ms) = r.kept ms ++ (p.rules ++ q.rules) := by
        rw [merged_eq, merged_eq, kept_append, undisturbed, kept_of_perm both, List.append_assoc]
    List.Perm _ (r.kept ms ++ r.rules) := both.symm.append_left _
    _ = r.merged ms := rfl

/-- Two policies of one strictness refuse nothing in a list, one after the other, just if their union
refuses nothing in it. -/
theorem refuses_merged_iff (apart : p.Apart q) (first : r.strict = p.strict)
    (second : r.strict = q.strict) (ms : List Matcher) :
    ((∀ m ∈ ms, p.refuses m = false) ∧ ∀ m ∈ p.merged ms, q.refuses m = false) ↔
      ∀ m ∈ ms, r.refuses m = false := by
  have refused (m : Matcher) : r.refuses m = (p.refuses m || q.refuses m) := by
    rw [refuses, refuses, refuses, contradicts_of_perm both, Bool.and_or_distrib_left, ← first,
      ← second]
  constructor
  · rintro ⟨clear, later⟩ m hm
    rw [refused, clear m hm, Bool.false_or]
    -- On a label of the second policy the first one says nothing, so the matcher is still there.
    cases disagrees : q.contradicts m with
    | false => rw [refuses, disagrees, Bool.and_false]
    | true =>
      obtain ⟨b, hb, names, -⟩ := contradicts_iff.mp disagrees
      have free : p.governs m.name = false := names ▸ apart.symm.governs_eq_false hb
      have kept : m ∈ p.kept ms := List.mem_filter.mpr ⟨hm, by rw [free, Bool.not_false]⟩
      exact later m (List.mem_append_left _ kept)
  · intro clear
    have split (m : Matcher) (hm : m ∈ ms) : p.refuses m = false ∧ q.refuses m = false := by
      rw [← Bool.or_eq_false_iff, ← refused]
      exact clear m hm
    refine ⟨fun m hm => (split m hm).1, fun m hm => ?_⟩
    rcases List.mem_append.mp hm with own | required
    · exact (split m (List.mem_filter.mp own).1).2
    · rw [refuses, apart.contradicts_eq_false required, Bool.and_false]

end

end SelectorGuard.Policy
