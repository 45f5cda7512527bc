import SelectorGuard.Policy.Draft
import SelectorGuard.Proofs.Enforcement.Walk
import SelectorGuard.Proofs.Policy.CacheKey
import Mathlib.Data.List.Dedup

/-!
# What a run of drafting steps comes to

A policy is drafted step by step, in any number of steps: the strictness is set, and matchers are
added, as they are or from values or a pattern. A step of the last two kinds may fail and then
leaves the draft as it was. Of all this the policy keeps the strictness that was set last and, for
each label, the matcher that was added last.
-/

namespace SelectorGuard

/-- A step in the making of a policy. -/
inductive DraftStep where
  /-- Set the strictness. -/
  | setStrict (strict : Bool)
  /-- Add a matcher. -/
  | add (m : Matcher)
  /-- Add a restriction to literal values. -/
  | addOneOf (label : String) (values : List String)
  /-- Add a restriction to a pattern. -/
  | addMatching (label pattern : String)
deriving DecidableEq

namespace DraftStep

/-- The strictness that a step sets. -/
def strictness? : DraftStep → Option Bool
  | setStrict strict => some strict
  | _ => none

/-- The matcher that a step adds, if it does not fail. -/
def matcher? : DraftStep → Option Matcher
  | setStrict _ => none
  | add m => some m
  | addOneOf label values => (Matcher.oneOf label values).toOption
  | addMatching label pattern => (Matcher.matching label pattern).toOption

end DraftStep

namespace PolicyDraft

/-- Take a step, if it does not fail. -/
def take (b : PolicyDraft) : DraftStep → Except PolicyError PolicyDraft
  | .setStrict strict => .ok (b.setStrict strict)
  | .add m => .ok (b.add m)
  | .addOneOf label values => b.addOneOf label values
  | .addMatching label pattern => b.addMatching label pattern

/-- Attempt a step. If it fails, the draft stays as it was. -/
def attempt (b : PolicyDraft) (x : DraftStep) : PolicyDraft :=
  match b.take x with
  | .ok after => after
  | .error _ => b

/-- Attempt steps one after the other, from an empty draft on. -/
def run (steps : List DraftStep) : PolicyDraft :=
  steps.foldl attempt {}

/-- The steps that fail, and so leave the draft as it was, are those that set no strictness and have
no matcher to add. -/
theorem take_eq_error_iff (b : PolicyDraft) (x : DraftStep) :
    (∃ err, b.take x = .error err ∧ b.attempt x = b) ↔
      x.strictness? = none ∧ x.matcher? = none := by
  have unchanged : (∃ err, b.take x = .error err ∧ b.attempt x = b) ↔
      ∃ err, b.take x = .error err := by
    refine exists_congr fun err => and_iff_left_of_imp fun failed => ?_
    rw [attempt, failed]
  have restriction (made : Except PolicyError Matcher) :
      (∃ err, made.map b.add = .error err) ↔ made.toOption = none := by
    cases made with
    | ok m => exact ⟨nofun, nofun⟩
    | error err => exact ⟨fun _ => rfl, fun _ => ⟨err, rfl⟩⟩
  rw [unchanged]
  cases x with
  | setStrict strict => exact ⟨nofun, nofun⟩
  | add m => exact ⟨nofun, nofun⟩
  | addOneOf label values =>
    exact (restriction (Matcher.oneOf label values)).trans (and_iff_right rfl).symm
  | addMatching label pattern =>
    exact (restriction (Matcher.matching label pattern)).trans (and_iff_right rfl).symm

/-- After a step has been attempted, the strictness is the one that it sets, if it sets one, and the
matcher that it adds, if it adds one, comes last. -/
theorem attempt_eq (b : PolicyDraft) (x : DraftStep) : b.attempt x =
    ⟨x.strictness?.getD b.strict, b.matchers ++ x.matcher?.toList⟩ := by
  have unchanged : b = ⟨b.strict, b.matchers ++ []⟩ := by rw [List.append_nil]
  cases x with
  | setStrict strict => exact congrArg (PolicyDraft.mk strict) (List.append_nil b.matchers).symm
  | add m => rfl
  | addOneOf label values =>
    rw [attempt, take, addOneOf, DraftStep.matcher?]
    cases Matcher.oneOf label values with
    | ok m => rfl
    | error err => exact unchanged
  | addMatching label pattern =>
    rw [attempt, take, addMatching, DraftStep.matcher?]
    cases Matcher.matching label pattern with
    | ok m => rfl
    | error err => exact unchanged

/-- After any steps, the strictness is the one that was set last, and the matchers are those that
were added, in order. -/
theorem run_eq (steps : List DraftStep) : run steps =
    ⟨((steps.filterMap DraftStep.strictness?).getLast?).getD false,
      steps.filterMap DraftStep.matcher?⟩ := by
  -- Steps are attempted from the front and the last one counts, so the induction is from the end.
  induction steps using List.reverseRecOn with
  | nil => rfl
  | append_singleton steps x ih =>
    have last : run (steps ++ [x]) = (run steps).attempt x := List.foldl_concat ..
    have single {β : Type} (f : DraftStep → Option β) : [x].filterMap f = (f x).toList := by
      rw [List.filterMap_cons]
      cases f x <;> rfl
    rw [last, attempt_eq, ih, List.filterMap_append, List.filterMap_append, single, single]
    cases x.strictness? with
    | none => rw [Option.toList_none, List.append_nil, Option.getD_none]
    | some strict =>
      rw [Option.toList_some, List.getLast?_concat, Option.getD_some, Option.getD_some]

end PolicyDraft

namespace Policy

/-- The labels of what a policy from a list requires are the labels of the list. -/
theorem mem_labels_ofList_iff {strict : Bool} {ms : List Matcher} {label : String} :
    label ∈ (ofList strict ms).rules.map Matcher.name ↔ label ∈ ms.map Matcher.name := by
  have found (p : Policy) : label ∈ p.rules.map Matcher.name ↔ (p.get? label).isSome = true := by
    simp only [List.mem_map, Option.isSome_iff_exists, get?_eq_some_iff]
  rw [found, get?_ofList, lastOn, List.find?_isSome]
  simp only [List.mem_reverse, List.mem_map, beq_iff_eq]

/-- A policy from a list has as many requirements as the list has labels. -/
theorem size_ofList (strict : Bool) (ms : List Matcher) :
    (ofList strict ms).size = (ms.map Matcher.name).dedup.length := by
  have labels : ((ofList strict ms).rules.map Matcher.name).Perm (ms.map Matcher.name).dedup := by
    refine (List.perm_ext_iff_of_nodup (nodup_labels _) (List.nodup_dedup _)).mpr fun label => ?_
    rw [mem_labels_ofList_iff, List.mem_dedup]
  rw [size, ← labels.length_eq, List.length_map]

/-- Walks that both go through a root come to the same result there if the requirements are the
same, however strict they are. -/
theorem result_eq_of_rules_eq {p q : Policy} (rules : q.rules = p.rules) {root : Root}
    (done : (q.enforceRoot root).outcome = .done) (through : (p.enforceRoot root).outcome = .done) :
    (q.enforceRoot root).result = (p.enforceRoot root).result := by
  rw [result_of_done root done, result_of_done root through, settle_congr rules]

/-- Whatever steps are attempted in the making of a policy, each of them either sets the strictness,
adds a matcher, or fails and changes nothing. The policy has the strictness that was set last and is
lenient if none was set. It requires on each label the last matcher that was added on it, and
nothing on any other label; its matchers stand in strictly ascending order of their labels, each of
them found under its own label, and there are as many as there are labels. Runs that added the same
matcher last on every label come to the same requirements. Their policies do the same to every root
if they are as strict, and if they are not, to every root that both of them go through. -/
theorem build_run_requires_last (steps : List DraftStep) :
    let ms := steps.filterMap DraftStep.matcher?
    let p := (PolicyDraft.run steps).build
    (∀ b x, (∃ err, PolicyDraft.take b x = .error err ∧ PolicyDraft.attempt b x = b) ↔
      x.strictness? = none ∧ x.matcher? = none) ∧
    p.strict = ((steps.filterMap DraftStep.strictness?).getLast?).getD false ∧
    (∀ label, p.get? label = lastOn ms label) ∧
    (p.rules.Pairwise fun a b => a.name < b.name) ∧
    (∀ label r, p.get? label = some r ↔ r ∈ p.rules ∧ r.name = label) ∧
    p.size = (ms.map Matcher.name).dedup.length ∧
    ∀ others : List DraftStep,
      (∀ label, lastOn (others.filterMap DraftStep.matcher?) label = lastOn ms label) →
      let q := (PolicyDraft.run others).build
      q.rules = p.rules ∧ (∀ label, q.get? label = p.get? label) ∧ q.size = p.size ∧
        ∀ root : Root,
          (q.strict = p.strict →
            (q.enforceRoot root).outcome = (p.enforceRoot root).outcome ∧
              (q.enforceRoot root).result = (p.enforceRoot root).result) ∧
          ((q.enforceRoot root).outcome = .done → (p.enforceRoot root).outcome = .done →
            (q.enforceRoot root).result = (p.enforceRoot root).result) := by
  intro ms p
  have build (steps : List DraftStep) : (PolicyDraft.run steps).build =
      ofList (((steps.filterMap DraftStep.strictness?).getLast?).getD false)
        (steps.filterMap DraftStep.matcher?) := by
    rw [PolicyDraft.run_eq, PolicyDraft.build]
  refine ⟨PolicyDraft.take_eq_error_iff, ?_, fun label => ?_, p.ascending,
    fun label r => get?_eq_some_iff, ?_, fun others same => ?_⟩
  · exact (congrArg strict (build steps)).trans (strict_ofList _ _)
  · exact (congrArg (get? · label) (build steps)).trans (get?_ofList _ _ label)
  · exact (congrArg size (build steps)).trans (size_ofList _ _)
  · intro q
    have required (strict : Bool) : ofList strict (others.filterMap DraftStep.matcher?) =
        ofList strict ms := ofList_eq_iff.mpr ⟨rfl, same⟩
    have rules : q.rules = p.rules := by
      rw [show q = _ from build others, show p = _ from build steps, required]
      exact rules_ofList_eq _ _ ms
    have found (label : String) : q.get? label = p.get? label := by rw [get?, get?, rules]
    refine ⟨rules, found, congrArg List.length rules, fun root =>
      ⟨fun modes => ?_, result_eq_of_rules_eq rules⟩⟩
    have equal : q = p := eq_of_get?_eq modes found
    rw [equal]
    exact ⟨rfl, rfl⟩

/-- Two runs, each with a step that fails: a pattern that is not well formed, and no values at all.
In the first one an earlier tenant is replaced, and the second one adds its matchers in another
order. Both come to the same strict policy. -/
theorem build_run_requires_last_of_two_runs :
    let own : Matcher := .equalTo "tenant" "acme" (by decide)
    let staged : Matcher := ⟨"stage", .notEqual, "dev", by decide, nofun⟩
    let steps : List DraftStep := [.addOneOf "tenant" ["old"], .setStrict true,
      .addMatching "env" "(", .add staged, .addOneOf "tenant" ["acme"]]
    let others : List DraftStep := [.addOneOf "tenant" ["acme"], .addOneOf "job" [],
      .setStrict false, .add staged, .setStrict true]
    let p := (PolicyDraft.run steps).build
    let q := (PolicyDraft.run others).build
    p.strict = true ∧ p.get? "tenant" = some own ∧ p.get? "env" = none ∧ p.size = 2 ∧
      q.rules = p.rules ∧
      ∀ root : Root, (q.enforceRoot root).outcome = (p.enforceRoot root).outcome := by
  intro own staged steps others p q
  have added : steps.filterMap DraftStep.matcher? =
      [.equalTo "tenant" "old" (by decide), staged, own] := by decide +kernel
  have addedByOthers : others.filterMap DraftStep.matcher? = [own, staged] := by decide +kernel
  have last (label : String) : lastOn (others.filterMap DraftStep.matcher?) label =
      lastOn (steps.filterMap DraftStep.matcher?) label := by
    rw [added, addedByOthers]
    exact (ofList_eq_iff.mp (by decide : ofList true [own, staged] = ofList true _)).2 label
  obtain ⟨-, strict, required, -, -, size, agree⟩ := build_run_requires_last steps
  rw [added] at required size
  obtain ⟨rules, -, -, effect⟩ := agree others last
  have modes : q.strict = p.strict := (build_run_requires_last others).2.1.trans strict.symm
  exact ⟨strict, (required "tenant").trans (by decide), (required "env").trans (by decide),
    size.trans (by decide), rules, fun root => ((effect root).1 modes).1⟩

end Policy

end SelectorGuard
