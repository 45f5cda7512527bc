import SelectorGuard.Policy.Basic
import Mathlib.Data.List.Induction

/-!
# Policies from lists of matchers

A list of matchers becomes a policy by entering them one after the other. The strictness takes no
part in this, so a strict and a lenient policy from the same list require the same. If no two
matchers of the list are on one label, none of them is replaced, and the policy requires exactly the
matchers of the list, in ascending order of their labels.
-/

namespace SelectorGuard

/-- Entering a matcher on a new label adds it. -/
theorem enterRule_perm {m : Matcher} {rules : List Matcher} (new : ∀ r ∈ rules, r.name ≠ m.name) :
    (enterRule m rules).Perm (m :: rules) := by
  induction rules with
  | nil => exact .refl _
  | cons r rest ih =>
    have other : m.name ≠ r.name := (new r List.mem_cons_self).symm
    have entered := ih fun q hq => new q (List.mem_cons_of_mem r hq)
    rw [enterRule, if_neg other]
    split
    · exact .refl _
    · exact (entered.cons r).trans (.swap m r rest)

namespace Policy

/-- A policy from a list has the strictness that it is made with. -/
theorem strict_ofList (strict : Bool) (ms : List Matcher) : (ofList strict ms).strict = strict := by
  induction ms using List.reverseRecOn with
  | nil => rfl
  | append_singleton ms m ih => rw [ofList_concat, strict_require, ih]

/-- The last matcher of a list is entered among what the others require. -/
theorem rules_ofList_concat (strict : Bool) (ms : List Matcher) (m : Matcher) :
    (ofList strict (ms ++ [m])).rules = enterRule m (ofList strict ms).rules := by
  rw [ofList_concat]
  rfl

/-- A policy from a list requires matchers of the list only. -/
theorem mem_of_mem_rules_ofList {strict : Bool} {ms : List Matcher} {r : Matcher}
    (h : r ∈ (ofList strict ms).rules) : r ∈ ms := by
  induction ms using List.reverseRecOn with
  | nil => cases h
  | append_singleton ms m ih =>
    rw [rules_ofList_concat] at h
    rcases eq_or_mem_of_mem_enterRule h with rfl | earlier
    · exact List.mem_append_right ms (List.mem_singleton_self r)
    · exact List.mem_append_left [m] (ih earlier)

/-- What a policy from a list requires does not depend on its strictness. -/
theorem rules_ofList_eq (strict other : Bool) (ms : List Matcher) :
    (ofList strict ms).rules = (ofList other ms).rules := by
  induction ms using List.reverseRecOn with
  | nil => rfl
  | append_singleton ms m ih => rw [rules_ofList_concat, rules_ofList_concat, ih]

/-- A policy from a list of matchers on different labels requires these matchers. -/
theorem rules_ofList_perm (strict : Bool) {ms : List Matcher} (apart : (ms.map Matcher.name).Nodup) :
    (ofList strict ms).rules.Perm ms := by
  induction ms using List.reverseRecOn with
  | nil => exact .refl _
  | append_singleton ms m ih =>
    rw [List.map_append, List.nodup_append] at apart
    have earlier : (ofList strict ms).rules.Perm ms := ih apart.1
    have new : ∀ r ∈ (ofList strict ms).rules, r.name ≠ m.name := fun r hr =>
      apart.2.2 r.name (List.mem_map_of_mem (earlier.mem_iff.mp hr)) m.name List.mem_cons_self
    rw [rules_ofList_concat]
    calc (enterRule m (ofList strict ms).rules).Perm (m :: (ofList strict ms).rules) :=
          enterRule_perm new
      List.Perm _ (m :: ms) := earlier.cons m
      List.Perm _ (ms ++ [m]) := (List.perm_append_singleton m ms).symm

end Policy

end SelectorGuard
