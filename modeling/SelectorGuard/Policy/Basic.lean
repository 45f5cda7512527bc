import SelectorGuard.Matcher

/-!
# Policies

A policy is what every selector of a query must carry: at most one matcher for each label, in
ascending order of the labels, and a flag for what happens when a selector already constrains one
of these labels in another way. A list of matchers becomes a policy by entering them one after the
other, so of several matchers for one label the last one stands.
-/

namespace SelectorGuard

/-- Enter a matcher among matchers in ascending order of labels, in place of one for its label. -/
def enterRule (m : Matcher) : List Matcher → List Matcher
  | [] => [m]
  | r :: rest =>
    if m.name < r.name then m :: r :: rest
    else if m.name = r.name then m :: rest
    else r :: enterRule m rest

theorem eq_or_mem_of_mem_enterRule {m x : Matcher} {rules : List Matcher}
    (h : x ∈ enterRule m rules) : x = m ∨ x ∈ rules := by
  induction rules with
  | nil => exact Or.inl (List.mem_singleton.1 h)
  | cons r rest ih =>
    unfold enterRule at h
    split at h
    · exact (List.mem_cons.1 h).imp_right id
    · split at h
      · exact (List.mem_cons.1 h).imp_right (List.mem_cons_of_mem r)
      · rcases List.mem_cons.1 h with rfl | h
        · exact Or.inr List.mem_cons_self
        · exact (ih h).imp_right (List.mem_cons_of_mem r)

/-- Entering a matcher keeps the labels in strictly ascending order. -/
theorem pairwise_enterRule (m : Matcher) {rules : List Matcher}
    (h : rules.Pairwise fun a b => a.name < b.name) :
    (enterRule m rules).Pairwise fun a b => a.name < b.name := by
  induction rules with
  | nil => exact List.pairwise_singleton _ _
  | cons r rest ih =>
    have hr := List.pairwise_cons.1 h
    unfold enterRule
    split
    · next hlt =>
      refine List.pairwise_cons.2 ⟨fun x hx => ?_, h⟩
      rcases List.mem_cons.1 hx with rfl | hx
      · exact hlt
      · exact String.lt_trans hlt (hr.1 x hx)
    · next hnlt =>
      split
      · next heq =>
        exact List.pairwise_cons.2 ⟨fun x hx => heq ▸ hr.1 x hx, hr.2⟩
      · next hne =>
        refine List.pairwise_cons.2 ⟨fun x hx => ?_, ih hr.2⟩
        rcases eq_or_mem_of_mem_enterRule hx with rfl | hx
        · exact Decidable.byContradiction fun hc =>
            hne (String.le_antisymm (String.not_lt.1 hc) (String.not_lt.1 hnlt))
        · exact hr.1 x hx

/-- A label finds the matcher that has been entered if it is its own, and else what it found. -/
theorem find?_enterRule (m : Matcher) (label : String) (rules : List Matcher) :
    (enterRule m rules).find? (fun r => r.name == label) =
      if m.name = label then some m else rules.find? fun r => r.name == label := by
  induction rules with
  | nil => by_cases hm : m.name = label <;> simp [enterRule, hm]
  | cons r rest ih =>
    unfold enterRule
    split
    · by_cases hm : m.name = label <;> simp [hm]
    · split
      · next heq =>
        by_cases hm : m.name = label
        · simp [hm]
        · have hr : ¬ r.name = label := fun h => hm (heq.trans h)
          simp [hm, hr]
      · next hne =>
        by_cases hr : r.name = label
        · have hm : ¬ m.name = label := fun h => hne (h.trans hr.symm)
          simp [hm, hr]
        · simp [hr, ih]

/-- The matchers that every selector must carry. -/
structure Policy where
  /-- Refuse a query that constrains a label of the policy in another way. -/
  strict : Bool
  /-- The required matchers. -/
  rules : List Matcher
  /-- The labels are in strictly ascending order. -/
  ascending : rules.Pairwise fun a b => a.name < b.name
deriving DecidableEq

namespace Policy

/-- The policy that requires nothing. -/
def nothing (strict : Bool) : Policy :=
  ⟨strict, [], List.Pairwise.nil⟩

/-- Require a matcher, in place of an earlier one for its label. -/
def require (p : Policy) (m : Matcher) : Policy :=
  ⟨p.strict, enterRule m p.rules, pairwise_enterRule m p.ascending⟩

/-- The policy that requires the matchers of a list, the last one for each label. -/
def ofList (strict : Bool) (ms : List Matcher) : Policy :=
  ms.foldl require (nothing strict)

/-- The required matcher for a label. -/
def get? (p : Policy) (label : String) : Option Matcher :=
  p.rules.find? fun m => m.name == label

/-- The matcher that is found for a label constrains this label. -/
theorem name_of_get? {p : Policy} {label : String} {m : Matcher} (h : p.get? label = some m) :
    m.name = label := by
  have found := List.find?_some h
  exact eq_of_beq found

/-- Requiring a matcher changes what is found for its label and for no other. -/
theorem get?_require (p : Policy) (m : Matcher) (label : String) :
    (p.require m).get? label = if m.name = label then some m else p.get? label :=
  find?_enterRule m label p.rules

/-- Requiring a matcher keeps the strictness. -/
theorem strict_require (p : Policy) (m : Matcher) : (p.require m).strict = p.strict :=
  rfl

/-- The last matcher of a list is required after all others. -/
theorem ofList_concat (strict : Bool) (ms : List Matcher) (m : Matcher) :
    ofList strict (ms ++ [m]) = (ofList strict ms).require m := by
  simp only [ofList, List.foldl_append, List.foldl_cons, List.foldl_nil]

/-- The number of required matchers. -/
def size (p : Policy) : Nat :=
  p.rules.length

/-- A policy that requires nothing. -/
def isEmpty (p : Policy) : Bool :=
  p.rules.isEmpty

end Policy

/-- An equality requirement takes the place of what a selector says on its label; the other kinds
are added to it. -/
def Matcher.isExclusive (m : Matcher) : Bool :=
  m.kind == .equal

end SelectorGuard
