import SelectorGuard.Proofs.Policy.Merging

/-!
# What reconciling does on each label

Reconciling goes through a list of matchers on all kinds of labels. Seen one label at a time it is
simple: what is said on a label without a requirement stays, an equality requirement takes the place
of everything that is said on its label, and any other requirement comes after it. Seen as a whole,
what is kept stands in the order that it had, and the requirements follow in the order of their
labels.
-/

namespace SelectorGuard

/-- Of two lists one after the other, each has its own matchers on a label. -/
theorem Matcher.onLabel_append (label : String) (ms ns : List Matcher) :
    onLabel label (ms ++ ns) = onLabel label ms ++ onLabel label ns :=
  List.filter_append ms ns

/-- The first matcher of a list is among those on its own label only. -/
theorem Matcher.onLabel_cons (label : String) (m : Matcher) (ms : List Matcher) :
    onLabel label (m :: ms) =
      if m.name = label then m :: onLabel label ms else onLabel label ms := by
  simp only [onLabel, List.filter_cons, beq_iff_eq]

/-- If the labels ascend strictly, the first matcher on a label is the only one. -/
theorem Matcher.onLabel_of_ascending {ms : List Matcher}
    (h : ms.Pairwise fun a b => a.name < b.name) (label : String) :
    onLabel label ms = (ms.find? fun m => m.name == label).toList := by
  induction ms with
  | nil => rfl
  | cons m rest ih =>
    obtain ⟨first, others⟩ := List.pairwise_cons.mp h
    rw [onLabel_cons, List.find?_cons]
    by_cases own : m.name = label
    · have none_behind : onLabel label rest = [] := by
        refine List.filter_eq_nil_iff.mpr fun r hr same => ?_
        have above : label < r.name := own ▸ first r hr
        exact String.lt_irrefl label (eq_of_beq same ▸ above)
      rw [if_pos own, beq_iff_eq.mpr own, none_behind]
      rfl
    · rw [if_neg own, beq_eq_false_iff_ne.mpr own]
      exact ih others

namespace Policy

variable (p : Policy)

/-- A policy requires on a label what the label finds. -/
theorem onLabel_rules (label : String) :
    Matcher.onLabel label p.rules = (p.get? label).toList :=
  Matcher.onLabel_of_ascending p.ascending label

/-- On a label with an equality requirement nothing is kept, and on any other everything. -/
theorem onLabel_kept (label : String) (ms : List Matcher) :
    Matcher.onLabel label (p.kept ms) =
      if p.governs label then [] else Matcher.onLabel label ms := by
  have same (m : Matcher) (hm : (m.name == label) = true) : p.governs m.name = p.governs label :=
    congrArg p.governs (eq_of_beq hm)
  rw [Matcher.onLabel, kept, List.filter_filter]
  split
  · next governed =>
    refine List.filter_eq_nil_iff.mpr fun m _ both => ?_
    rw [Bool.and_eq_true] at both
    rw [same m both.1, governed] at both
    exact absurd both.2 Bool.false_ne_true
  · next free =>
    refine List.filter_congr fun m _ => ?_
    by_cases own : (m.name == label) = true
    · rw [same m own, eq_false_of_ne_true free, Bool.not_false, Bool.and_true]
    · rw [eq_false_of_ne_true own, Bool.false_and]

/-- The merged matchers on a label are those of before, unless an equality requirement takes their
place, and then what the policy requires on it. -/
theorem onLabel_merged (label : String) (ms : List Matcher) :
    Matcher.onLabel label (p.merged ms) =
      (if p.governs label then [] else Matcher.onLabel label ms) ++ (p.get? label).toList := by
  rw [merged_eq, Matcher.onLabel_append, onLabel_kept, onLabel_rules]

variable {p}

/-- Reconciling that succeeds merges. -/
theorem eq_merged_of_reconcile {targets res : List Matcher} (h : p.reconcile targets = .ok res) :
    res = p.merged targets := by
  rw [reconcile_eq] at h
  split at h
  · cases h
  · exact (Except.ok.inj h).symm

/-- When matchers have been reconciled with a policy, strict or not, then those on a label that the
policy says nothing about are the ones of before, each as often as before and in the same order. On
a label with an equality requirement there is this requirement and nothing else. On a label with
another requirement there are the ones of before and then the requirement. As a whole, the result
consists of some of the matchers of before in their order and all the requirements behind them,
whose labels ascend strictly, and the matchers that are foreign to the policy have kept their order
among each other. -/
theorem reconcile_eq_on_each_label {targets res : List Matcher}
    (h : p.reconcile targets = .ok res) :
    (∀ label, p.get? label = none →
      Matcher.onLabel label res = Matcher.onLabel label targets) ∧
    (∀ label r, p.get? label = some r → Matcher.onLabel label res =
      if r.kind = .equal then [r] else Matcher.onLabel label targets ++ [r]) ∧
    (∃ kept, kept.Sublist targets ∧ res = kept ++ p.rules) ∧
    (p.rules.Pairwise fun a b => a.name < b.name) ∧
    (res.filter fun m => (p.get? m.name).isNone) =
      targets.filter fun m => (p.get? m.name).isNone := by
  obtain rfl := eq_merged_of_reconcile h
  refine ⟨fun label absent => ?_, fun label r required => ?_,
    ⟨p.kept targets, List.filter_sublist, rfl⟩, p.ascending, ?_⟩
  · rw [onLabel_merged, governs, absent]
    exact List.append_nil _
  · rw [onLabel_merged, governs_of_get? required, required, Matcher.isExclusive]
    by_cases equality : r.kind = .equal
    · rw [if_pos equality, if_pos (beq_iff_eq.mpr equality)]
      rfl
    · rw [if_neg equality, if_neg (mt beq_iff_eq.mp equality)]
      rfl
  · have required : (p.rules.filter fun m => (p.get? m.name).isNone) = [] := by
      refine List.filter_eq_nil_iff.mpr fun r hr => ?_
      rw [get?_eq_some_iff.mpr ⟨hr, rfl⟩]
      exact Bool.false_ne_true
    rw [merged_eq, List.filter_append, required, List.append_nil, kept, List.filter_filter]
    refine List.filter_congr fun m _ => ?_
    cases found : p.get? m.name with
    | none => rw [governs, found]; rfl
    | some r => rfl

/-- A list with two matchers on the tenant, one on the stage and the same one on the job twice: the
requirement on the tenant is alone, the one on the stage comes second, and the job is still there
twice. -/
theorem reconcile_eq_on_each_label_of_repeated_labels :
    let own : Matcher := .equalTo "tenant" "acme" (by decide)
    let staged : Matcher := ⟨"stage", .notEqual, "dev", by decide, nofun⟩
    let job : Matcher := .equalTo "job" "api" (by decide)
    let prod : Matcher := .equalTo "stage" "prod" (by decide)
    let targets := [job, .equalTo "tenant" "other" (by decide), prod, own, job]
    ∃ res, (ofList false [own, staged]).reconcile targets = .ok res ∧
      Matcher.onLabel "tenant" res = [own] ∧ Matcher.onLabel "stage" res = [prod, staged] ∧
      Matcher.onLabel "job" res = [job, job] ∧
      (res.filter fun m => ((ofList false [own, staged]).get? m.name).isNone) = [job, job] := by
  intro own staged job prod targets
  have reconciled : (ofList false [own, staged]).reconcile targets =
      .ok [job, prod, job, staged, own] := by decide
  have labels := reconcile_eq_on_each_label reconciled
  refine ⟨_, reconciled, ?_, ?_, ?_, ?_⟩
  · exact labels.2.1 "tenant" own (by decide)
  · exact labels.2.1 "stage" staged (by decide)
  · exact labels.1 "job" (by decide)
  · exact labels.2.2.2.2.trans (by decide)

end Policy

end SelectorGuard
