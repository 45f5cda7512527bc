import SelectorGuard.Policy.Fingerprint
import SelectorGuard.Proofs.Policy.AllowList
import SelectorGuard.Proofs.Policy.Assembly

/-!
# Policies from configurations

A configuration is a draft in writing: each of its entries stands for one step. The two ways to a
policy judge an entry by the same rules, whatever entries stand around it, so they fail at the same
entry with the same error or come to the same policy. An entry that a later one replaces is judged
like any other. No way leads to a policy with a pattern that matches the empty value, unless the
pattern is one that must not match.
-/

namespace SelectorGuard

namespace Matcher

variable {label pattern name value : String} {values : List String} {kind : MatchKind}

/-- A matcher can be made of a legal label name and an operand that spells a pattern if it has to.
-/
theorem exists_make_eq_ok_iff : (∃ m, make kind name value = .ok m) ↔
    Label.isName name = true ∧ (kind.isRegex = true → Pattern.isAnchorable value = true) := by
  constructor
  · rintro ⟨m, made⟩
    obtain ⟨rfl, rfl, rfl⟩ := make_eq_ok made
    exact ⟨m.name_legal, m.value_spells⟩
  · rintro ⟨legal, spells⟩
    exact ⟨_, make_self ⟨name, kind, value, legal, spells⟩⟩

/-- A matcher can be made of a legal label name and a pattern that does not match the empty value.
-/
theorem exists_matching_eq_ok_iff : (∃ m, matching label pattern = .ok m) ↔
    Label.isName label = true ∧ Pattern.isAnchorable pattern = true ∧
      Pattern.accepts pattern "" = false := by
  constructor
  · rintro ⟨m, matched⟩
    obtain ⟨made, refused⟩ := matching_eq_ok_iff.mp matched
    obtain ⟨legal, spells⟩ := exists_make_eq_ok_iff.mp ⟨m, made⟩
    obtain ⟨-, kind, operand⟩ := make_eq_ok made
    rw [accepts, kind, operand] at refused
    exact ⟨legal, spells rfl, refused⟩
  · rintro ⟨legal, spells, refused⟩
    let m : Matcher := ⟨label, .regexMatch, pattern, legal, fun _ => spells⟩
    exact ⟨m, matching_eq_ok_iff.mpr ⟨make_self m, refused⟩⟩

/-- A matcher can be made of a legal label name and several values if none of them is empty and the
pattern that lists them can be anchored. -/
theorem exists_matching_alternatives_eq_ok_iff (listed : values ≠ []) :
    (∃ m, matching label (Pattern.alternatives values) = .ok m) ↔ Label.isName label = true ∧
      "" ∉ values ∧ Pattern.isAnchorable (Pattern.alternatives values) = true := by
  rw [exists_matching_eq_ok_iff]
  constructor
  · rintro ⟨legal, spells, refused⟩
    have accepted := Pattern.accepts_alternatives_iff listed spells ""
    exact ⟨legal, mt accepted.mpr (ne_true_of_eq_false refused), spells⟩
  · rintro ⟨legal, absent, spells⟩
    have accepted := Pattern.accepts_alternatives_iff listed spells ""
    exact ⟨legal, spells, eq_false_of_ne_true (mt accepted.mp absent)⟩

/-- A matcher can be made of a legal label name and one value, or several values that can be
listed. -/
theorem exists_oneOf_eq_ok_iff : (∃ m, oneOf label values = .ok m) ↔
    Label.isName label = true ∧ (values.length = 1 ∨ 2 ≤ values.length ∧ "" ∉ values ∧
      Pattern.isAnchorable (Pattern.alternatives values) = true) := by
  match values with
  | [] => simp [oneOf]
  | [value] =>
    have single : (∃ m, oneOf label [value] = .ok m) ↔ ∃ m, make .equal label value = .ok m :=
      exists_congr fun m => makeRule_eq_ok_iff
    rw [single, exists_make_eq_ok_iff]
    simp [MatchKind.isRegex]
  | first :: second :: rest =>
    have several : (∃ m, oneOf label (first :: second :: rest) = .ok m) ↔
        ∃ m, matching label (Pattern.alternatives (first :: second :: rest)) = .ok m := Iff.rfl
    rw [several, exists_matching_alternatives_eq_ok_iff (List.cons_ne_nil _ _)]
    simp

end Matcher

namespace ConfigEntry

/-- An entry is valid on its own. Its label name is legal, and what it says of the label can be made
a matcher: values if there is one, or several that can be listed and none of which is empty; a
pattern if it is well formed and does not match the empty value, by whatever form of entry it is
given; any other operand if it is well formed as far as it has to be. -/
def IsValid : ConfigEntry → Prop
  | values label vs => Label.isName label = true ∧ (vs.length = 1 ∨ 2 ≤ vs.length ∧ "" ∉ vs ∧
      Pattern.isAnchorable (Pattern.alternatives vs) = true)
  | regex label pattern | explicit label .regexMatch pattern => Label.isName label = true ∧
      Pattern.isAnchorable pattern = true ∧ Pattern.accepts pattern "" = false
  | explicit label kind value => Label.isName label = true ∧
      (kind.isRegex = true → Pattern.isAnchorable value = true)

/-- The valid entries are those with a matcher. -/
theorem isValid_iff {e : ConfigEntry} : e.IsValid ↔ ∃ m, e.toMatcher = .ok m := by
  have other {label value : String} {kind : MatchKind} :
      (∃ m, Matcher.makeRule kind label value = .ok m) ↔ Label.isName label = true ∧
        (kind.isRegex = true → Pattern.isAnchorable value = true) :=
    (exists_congr fun m => Matcher.makeRule_eq_ok_iff).trans Matcher.exists_make_eq_ok_iff
  cases e with
  | values label vs => exact Matcher.exists_oneOf_eq_ok_iff.symm
  | regex label pattern => exact Matcher.exists_matching_eq_ok_iff.symm
  | explicit label kind value =>
    cases kind with
    | regexMatch => exact Matcher.exists_matching_eq_ok_iff.symm
    | _ => exact other.symm

/-- A pattern that a value must match does not match the empty value. -/
theorem accepts_empty_of_toMatcher {e : ConfigEntry} {m : Matcher} (h : e.toMatcher = .ok m)
    (kind : m.kind = .regexMatch) : m.accepts "" = false := by
  have other {label value : String} {k : MatchKind} (ne : k ≠ .regexMatch)
      (h : Matcher.makeRule k label value = .ok m) : m.accepts "" = false := by
    obtain ⟨-, same, -⟩ := Matcher.make_eq_ok (Matcher.makeRule_eq_ok_iff.mp h)
    exact absurd (same.symm.trans kind) ne
  cases e with
  | values label vs =>
    rcases Matcher.oneOf_eq_ok_iff.mp h with ⟨value, -, made⟩ | ⟨-, matched⟩
    · exact other (by decide) (Matcher.makeRule_eq_ok_iff.mpr made)
    · exact (Matcher.matching_eq_ok_iff.mp matched).2
  | regex label pattern => exact (Matcher.matching_eq_ok_iff.mp h).2
  | explicit label k value =>
    cases k with
    | regexMatch => exact (Matcher.matching_eq_ok_iff.mp h).2
    | _ => exact other (by decide) h

end ConfigEntry

namespace PolicyDraft

/-- The step of a draft that an entry of a configuration stands for. -/
def enter (b : PolicyDraft) : ConfigEntry → Except PolicyError PolicyDraft
  | .values label vs => b.addOneOf label vs
  | .regex label pattern => b.addMatching label pattern
  | .explicit label .regexMatch pattern => b.addMatching label pattern
  | .explicit label kind value => (Matcher.makeRule kind label value).map b.add

/-- The draft that a configuration stands for. -/
def ofConfig (c : PolicyConfig) : Except PolicyError PolicyDraft :=
  c.entries.foldlM enter (PolicyDraft.setStrict {} c.strict)

/-- A step adds the matcher of the entry. -/
theorem enter_eq (b : PolicyDraft) (e : ConfigEntry) : b.enter e = e.toMatcher.map b.add := by
  cases e with
  | explicit label kind value => cases kind <;> rfl
  | _ => rfl

/-- Steps one after the other add the matchers of the entries, or end with the error of the first
entry that has none. -/
theorem foldlM_enter (b : PolicyDraft) (es : List ConfigEntry) : es.foldlM enter b =
    (es.mapM ConfigEntry.toMatcher).map fun ms => { b with matchers := b.matchers ++ ms } := by
  induction es generalizing b with
  | nil =>
    rw [List.foldlM_nil, List.mapM_nil]
    exact congrArg (fun ms => Except.ok { b with matchers := ms }) (List.append_nil b.matchers).symm
  | cons e rest ih =>
    rw [List.foldlM_cons, enter_eq, List.mapM_cons]
    cases e.toMatcher with
    | error err => rfl
    | ok m =>
      change rest.foldlM enter (b.add m) = _
      rw [ih]
      cases rest.mapM ConfigEntry.toMatcher with
      | error err => rfl
      | ok ms =>
        have matchers : b.matchers ++ [m] ++ ms = b.matchers ++ m :: ms := by
          rw [List.append_assoc, List.singleton_append]
        exact congrArg (fun ms => Except.ok { b with matchers := ms }) matchers

end PolicyDraft

namespace PolicyConfig

variable {c : PolicyConfig}

/-- A configuration with an entry comes to the policy of the draft that it stands for, or to its
error. -/
theorem toPolicy_eq_build (entered : c.entries ≠ []) :
    c.toPolicy = (PolicyDraft.ofConfig c).map PolicyDraft.build := by
  rw [toPolicy, List.isEmpty_eq_false_iff.mpr entered, PolicyDraft.ofConfig,
    PolicyDraft.foldlM_enter]
  cases c.entries.mapM ConfigEntry.toMatcher <;> rfl

/-- The policy of a configuration is made from the matchers of the entries. -/
theorem toPolicy_eq_ok_iff {p : Policy} : c.toPolicy = .ok p ↔ c.entries ≠ [] ∧
    ∃ ms, c.entries.mapM ConfigEntry.toMatcher = .ok ms ∧ p = Policy.ofList c.strict ms := by
  rw [toPolicy]
  split
  · next none => simp [List.isEmpty_iff.mp none]
  · next entered =>
    have some_entry : c.entries ≠ [] := mt List.isEmpty_iff.mpr entered
    cases c.entries.mapM ConfigEntry.toMatcher with
    | error err => simp [Except.map]
    | ok ms => simp [Except.map, some_entry, eq_comm]

/-- A configuration becomes a policy just if it has an entry and all entries are valid. -/
theorem exists_toPolicy_eq_ok_iff :
    (∃ p, c.toPolicy = .ok p) ↔ c.entries ≠ [] ∧ ∀ e ∈ c.entries, e.IsValid := by
  have valid : (∀ e ∈ c.entries, e.IsValid) ↔
      ∃ ms, c.entries.mapM ConfigEntry.toMatcher = .ok ms := by
    simp only [exists_mapM_eq_ok_iff, ConfigEntry.isValid_iff]
  rw [valid]
  constructor
  · rintro ⟨p, h⟩
    obtain ⟨entered, ms, all, -⟩ := toPolicy_eq_ok_iff.mp h
    exact ⟨entered, ms, all⟩
  · rintro ⟨entered, ms, all⟩
    exact ⟨_, toPolicy_eq_ok_iff.mpr ⟨entered, ms, all, rfl⟩⟩

/-- An entry that is not valid gives the same error as a step of a draft and, if it is the first
one, as part of the configuration. -/
theorem toPolicy_eq_error_of_first {before after : List ConfigEntry} {e : ConfigEntry}
    (split : c.entries = before ++ e :: after) (earlier : ∀ f ∈ before, f.IsValid)
    (invalid : ¬ e.IsValid) :
    ∃ err, PolicyDraft.enter {} e = .error err ∧ c.toPolicy = .error err := by
  rw [ConfigEntry.isValid_iff] at invalid
  cases own : e.toMatcher with
  | ok m => exact absurd ⟨m, own⟩ invalid
  | error err =>
    have first : (before ++ e :: after).mapM ConfigEntry.toMatcher = .error err :=
      mapM_eq_error_of_first (fun f hf => ConfigEntry.isValid_iff.mp (earlier f hf)) own
    refine ⟨err, ?_, ?_⟩
    · rw [PolicyDraft.enter_eq, own]
      rfl
    · rw [toPolicy, split, first]
      simp [Except.map]

/-- What a policy from a configuration requires comes from its entries. -/
theorem exists_toMatcher_of_mem_rules {p : Policy} (h : c.toPolicy = .ok p) {r : Matcher}
    (required : r ∈ p.rules) : ∃ e ∈ c.entries, e.toMatcher = .ok r := by
  obtain ⟨-, ms, all, rfl⟩ := toPolicy_eq_ok_iff.mp h
  exact exists_of_mem_mapM_ok all r (Policy.mem_of_mem_rules_ofList required)

/-- A configuration becomes a policy just if it has an entry and every entry is valid on its own,
those included that later ones replace. A configuration without entries is refused as such, any
other with the error of the first entry that is not valid. The policy has the strictness of the
configuration, and its strictness, matchers and fingerprint are those of the policy that is drafted
with a step for each entry. No pattern in it that a value must match accepts the empty value. -/
theorem toPolicy_agrees_with_draft (c : PolicyConfig) :
    ((∃ p, c.toPolicy = .ok p) ↔ c.entries ≠ [] ∧ ∀ e ∈ c.entries, e.IsValid) ∧
    (c.entries = [] → c.toPolicy = .error (.config .noMatchers)) ∧
    (∀ before e after, c.entries = before ++ e :: after → (∀ f ∈ before, f.IsValid) → ¬ e.IsValid →
      ∃ err, PolicyDraft.enter {} e = .error err ∧ c.toPolicy = .error err) ∧
    ∀ p, c.toPolicy = .ok p →
      (∃ d, PolicyDraft.ofConfig c = .ok d ∧ p.strict = d.build.strict ∧ p.rules = d.build.rules ∧
        p.fingerprint = d.build.fingerprint) ∧
      p.strict = c.strict ∧ ∀ m ∈ p.rules, m.kind = .regexMatch → m.accepts "" = false := by
  refine ⟨exists_toPolicy_eq_ok_iff, fun none => ?_, fun before e after => ?_, fun p h => ?_⟩
  · rw [toPolicy, none]
    rfl
  · exact toPolicy_eq_error_of_first
  · obtain ⟨entered, ms, -, made⟩ := toPolicy_eq_ok_iff.mp h
    refine ⟨?_, ?_, fun m required kind => ?_⟩
    · rw [toPolicy_eq_build entered] at h
      cases drafted : PolicyDraft.ofConfig c with
      | error err =>
        rw [drafted] at h
        cases h
      | ok d =>
        rw [drafted] at h
        cases h
        exact ⟨d, rfl, rfl, rfl, rfl⟩
    · rw [made, Policy.strict_ofList]
    · obtain ⟨e, -, own⟩ := exists_toMatcher_of_mem_rules h required
      exact ConfigEntry.accepts_empty_of_toMatcher own kind

/-- Entries of all forms, the first of which is replaced by the last, become a policy. A pattern
that matches the empty value is an error, although a later entry for its label is valid. -/
theorem toPolicy_agrees_with_draft_of_replaced_entries :
    let c : PolicyConfig := ⟨true, [.values "tenant" ["acme", "zeta"], .regex "env" "prod|staging",
      .explicit "team" .notEqual "ops", .explicit "job" .regexNoMatch "x*", .values "tenant" ["a"]]⟩
    let refused : PolicyConfig :=
      ⟨false, [.values "tenant" ["acme"], .explicit "env" .regexMatch "a*", .regex "env" "prod"]⟩
    (∃ p, c.toPolicy = .ok p ∧ p.strict = true ∧
      ∃ d, PolicyDraft.ofConfig c = .ok d ∧ p.rules = d.build.rules) ∧
    ∃ err, PolicyDraft.enter {} (.explicit "env" .regexMatch "a*") = .error err ∧
      refused.toPolicy = .error err := by
  intro c refused
  have valid : ∀ e ∈ c.entries, e.IsValid := by
    have tenants : (ConfigEntry.values "tenant" ["acme", "zeta"]).IsValid :=
      ⟨by decide, .inr ⟨by decide, by decide, by decide +kernel⟩⟩
    have envs : (ConfigEntry.regex "env" "prod|staging").IsValid :=
      ⟨by decide, by decide +kernel, by decide +kernel⟩
    have team : (ConfigEntry.explicit "team" .notEqual "ops").IsValid := ⟨by decide, nofun⟩
    have job : (ConfigEntry.explicit "job" .regexNoMatch "x*").IsValid :=
      ⟨by decide, fun _ => by decide +kernel⟩
    have tenant : (ConfigEntry.values "tenant" ["a"]).IsValid := ⟨by decide, .inl rfl⟩
    simpa [c] using ⟨tenants, envs, team, job, tenant⟩
  have first : ∀ e ∈ [ConfigEntry.values "tenant" ["acme"]], e.IsValid :=
    List.forall_mem_singleton.mpr ⟨by decide, .inl rfl⟩
  have invalid : ¬ (ConfigEntry.explicit "env" .regexMatch "a*").IsValid := by
    have accepted : Pattern.accepts "a*" "" = true := by decide +kernel
    rintro ⟨-, -, not_accepted⟩
    rw [accepted] at not_accepted
    cases not_accepted
  obtain ⟨made, -, -, policy⟩ := toPolicy_agrees_with_draft c
  obtain ⟨p, h⟩ := made.mpr ⟨List.cons_ne_nil _ _, valid⟩
  obtain ⟨⟨d, drafted, -, rules, -⟩, strict, -⟩ := policy p h
  exact ⟨⟨p, h, strict, d, drafted, rules⟩,
    (toPolicy_agrees_with_draft refused).2.2.1 [_] _ [_] rfl first invalid⟩

end PolicyConfig

end SelectorGuard
