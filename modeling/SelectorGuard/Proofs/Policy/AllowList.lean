import SelectorGuard.Policy.Config
import SelectorGuard.Proofs.Matcher.Anchoring
import SelectorGuard.Proofs.Matcher.Identity
import SelectorGuard.Proofs.Pattern.Literal

/-!
# Allow lists

An allow list says which values a label may have, one by one or by a pattern. It becomes a matcher
on several routes: directly, as a step of a draft, or as an entry of a configuration. On each of
them the matcher for some values accepts these values and no other. A pattern that matches the empty
value is refused, and so are several values with the empty one among them, since a series that lacks
the label would pass. A list of one value is not held to this: the empty value alone makes a
matcher, and it selects just the series that lack the label.
-/

namespace SelectorGuard

/-- A pattern that lists some values accepts these values and no other. -/
theorem Pattern.accepts_alternatives_iff {values : List String} (listed : values ≠ [])
    (anchorable : isAnchorable (alternatives values) = true) (value : String) :
    accepts (alternatives values) value = true ↔ value ∈ values := by
  cases values with
  | nil => exact absurd rfl listed
  | cons first rest =>
    rw [accepts_iff_matchesWhole (parse?_alternatives first rest) anchorable]
    exact matches_whole_alternatives_iff

namespace Matcher

variable {label pattern name value : String} {values : List String} {kind : MatchKind} {m : Matcher}

/-- Making a matcher as part of making a policy gives the same matcher. -/
theorem makeRule_eq_ok_iff : makeRule kind name value = .ok m ↔ make kind name value = .ok m :=
  mapError_eq_ok_iff

/-- A matcher for a pattern does not accept the empty value, and is else like any other. -/
theorem matching_eq_ok_iff : matching label pattern = .ok m ↔
    make .regexMatch label pattern = .ok m ∧ m.accepts "" = false := by
  have accepts_eq (parts : m.name = label ∧ m.kind = .regexMatch ∧ m.value = pattern) :
      m.accepts "" = Pattern.accepts pattern "" := by
    rw [accepts, parts.2.1, parts.2.2]
  constructor
  · intro h
    unfold matching at h
    split at h
    · cases h
    · split at h
      · cases h
      · next refused =>
        have made := makeRule_eq_ok_iff.mp h
        rw [accepts_eq (make_eq_ok made)]
        exact ⟨made, eq_false_of_ne_true refused⟩
  · rintro ⟨made, refused⟩
    have parts := make_eq_ok made
    have anchorable : Pattern.isAnchorable pattern = true :=
      parts.2.2 ▸ m.value_spells (by rw [parts.2.1]; rfl)
    rw [accepts_eq parts] at refused
    rw [matching, anchorable, refused]
    exact makeRule_eq_ok_iff.mpr made

/-- A matcher for a list of values is one for equality with the only value, or one for a pattern
that lists them. -/
theorem oneOf_eq_ok_iff : oneOf label values = .ok m ↔
    (∃ value, values = [value] ∧ make .equal label value = .ok m) ∨
      2 ≤ values.length ∧ matching label (Pattern.alternatives values) = .ok m := by
  match values with
  | [] => simp [oneOf]
  | [value] => simp [oneOf, makeRule_eq_ok_iff]
  | first :: second :: rest => simp [oneOf]

/-- A matcher for a pattern that lists some values accepts these values and no other. -/
theorem accepts_iff_of_matching_alternatives (listed : values ≠ [])
    (h : matching label (Pattern.alternatives values) = .ok m) (value : String) :
    m.accepts value = true ↔ value ∈ values := by
  obtain ⟨-, kind, operand⟩ := make_eq_ok (matching_eq_ok_iff.mp h).1
  have anchorable : Pattern.isAnchorable (Pattern.alternatives values) = true :=
    operand ▸ m.value_spells (by rw [kind]; rfl)
  rw [accepts, kind, operand]
  exact Pattern.accepts_alternatives_iff listed anchorable value

/-- A matcher that a list of values gives accepts a value just if it is one of them. There may be
one or many, and they may hold any characters, those with a meaning in patterns included. -/
theorem oneOf_accepts_iff (h : oneOf label values = .ok m) (value : String) :
    m.accepts value = true ↔ value ∈ values := by
  rcases oneOf_eq_ok_iff.mp h with ⟨only, rfl, made⟩ | ⟨many, matched⟩
  · obtain ⟨-, kind, operand⟩ := make_eq_ok made
    rw [accepts, kind, operand, List.mem_singleton]
    exact beq_iff_eq.trans eq_comm
  · exact accepts_iff_of_matching_alternatives (List.ne_nil_of_length_pos (by omega)) matched value

/-- Values with special characters, a line end and a beginning in common are listed, the last of
them twice. What they would match as patterns is not. -/
theorem oneOf_accepts_iff_of_special_values :
    ∃ m, oneOf "tenant" ["a.b", "a.b|c(é", "(\n", "a", "a"] = .ok m ∧
      m.accepts "a.b" = true ∧ m.accepts "a.b|c(é" = true ∧ m.accepts "(\n" = true ∧
      ¬ m.accepts "axb" = true ∧ ¬ m.accepts "a.b|" = true ∧ ¬ m.accepts "" = true := by
  let source := Pattern.alternatives ["a.b", "a.b|c(é", "(\n", "a", "a"]
  have anchorable : Pattern.isAnchorable source = true := by decide +kernel
  have refused : Pattern.accepts source "" = false := by decide +kernel
  let m : Matcher := ⟨"tenant", .regexMatch, source, by decide, fun _ => anchorable⟩
  have made : oneOf "tenant" ["a.b", "a.b|c(é", "(\n", "a", "a"] = .ok m :=
    oneOf_eq_ok_iff.mpr (.inr ⟨by decide, matching_eq_ok_iff.mpr ⟨make_self m, refused⟩⟩)
  have listed (value : String) := oneOf_accepts_iff made value
  refine ⟨m, made, (listed _).mpr ?_, (listed _).mpr ?_, (listed _).mpr ?_, mt (listed _).mp ?_,
    mt (listed _).mp ?_, mt (listed _).mp ?_⟩ <;> decide

end Matcher

/-- What an allow list says of a label. -/
inductive Restriction where
  /-- The label has one of several values. -/
  | values (label : String) (values : List String)
  /-- The value of the label is matched by a pattern. -/
  | pattern (label pattern : String)
deriving DecidableEq, Repr

namespace Restriction

/-- The matcher that an allow list gives on one of the routes. -/
inductive Gives : Restriction → Matcher → Prop
  /-- Values are given directly. -/
  | oneOf {label : String} {vs : List String} {m : Matcher} :
      Matcher.oneOf label vs = .ok m → Gives (.values label vs) m
  /-- A pattern is given directly. -/
  | matching {label pattern : String} {m : Matcher} :
      Matcher.matching label pattern = .ok m → Gives (.pattern label pattern) m
  /-- Values are given in a step of a draft. -/
  | addOneOf {label : String} {vs : List String} {b : PolicyDraft} {m : Matcher} :
      b.addOneOf label vs = .ok (b.add m) → Gives (.values label vs) m
  /-- A pattern is given in a step of a draft. -/
  | addMatching {label pattern : String} {b : PolicyDraft} {m : Matcher} :
      b.addMatching label pattern = .ok (b.add m) → Gives (.pattern label pattern) m
  /-- Values are given in an entry of a configuration. -/
  | valuesEntry {label : String} {vs : List String} {m : Matcher} :
      (ConfigEntry.values label vs).toMatcher = .ok m → Gives (.values label vs) m
  /-- A pattern is given in an entry of a configuration. -/
  | regexEntry {label pattern : String} {m : Matcher} :
      (ConfigEntry.regex label pattern).toMatcher = .ok m → Gives (.pattern label pattern) m

/-- The values are the empty one alone. -/
def IsOnlyEmpty : Restriction → Prop
  | values _ vs => vs = [""]
  | pattern _ _ => False

/-- The matcher that is made for an allow list. -/
def make : Restriction → Except PolicyError Matcher
  | values label vs => Matcher.oneOf label vs
  | pattern label source => Matcher.matching label source

/-- Whatever the step of a draft adds is the matcher that was made for it. -/
theorem eq_of_map_add {x : Except PolicyError Matcher} {b : PolicyDraft} {m : Matcher}
    (h : x.map b.add = .ok (b.add m)) : x = .ok m := by
  cases x with
  | error e => cases h
  | ok n =>
    have drafts : b.add n = b.add m := Except.ok.inj h
    have added : b.matchers ++ [n] = b.matchers ++ [m] := congrArg PolicyDraft.matchers drafts
    rw [List.singleton_inj.mp (List.append_cancel_left added)]

/-- All routes make the same matcher. -/
theorem gives_iff {r : Restriction} {m : Matcher} : r.Gives m ↔ r.make = .ok m := by
  constructor
  · rintro (h | h | h | h | h | h)
    · exact h
    · exact h
    · exact eq_of_map_add h
    · exact eq_of_map_add h
    · exact h
    · exact h
  · intro h
    cases r with
    | values label vs => exact .oneOf h
    | pattern label source => exact .matching h

/-- On every route, the matcher for an allow list accepts the empty value, and with it the series
that lack the label, just if the list has the empty value alone. No route makes a matcher for a list
that has the empty value among others. -/
theorem accepts_empty_iff_isOnlyEmpty (r : Restriction) :
    (∀ m, r.Gives m → (m.accepts "" = true ↔ r.IsOnlyEmpty)) ∧
      ∀ label vs, r = values label vs → "" ∈ vs → vs.length ≠ 1 → ∀ m, ¬ r.Gives m := by
  constructor
  · intro m given
    have made := gives_iff.mp given
    cases r with
    | pattern label source =>
      have refused := (Matcher.matching_eq_ok_iff.mp made).2
      rw [refused]
      exact ⟨nofun, nofun⟩
    | values label vs =>
      rcases Matcher.oneOf_eq_ok_iff.mp made with ⟨value, rfl, equal⟩ | ⟨many, matched⟩
      · obtain ⟨-, kind, operand⟩ := Matcher.make_eq_ok equal
        rw [Matcher.accepts, kind, operand, IsOnlyEmpty, List.singleton_inj]
        exact beq_iff_eq
      · have refused := (Matcher.matching_eq_ok_iff.mp matched).2
        rw [refused]
        refine ⟨nofun, fun only => ?_⟩
        rw [show vs = [""] from only] at many
        exact absurd many (by decide)
  · rintro label vs rfl empty more m given
    rcases Matcher.oneOf_eq_ok_iff.mp (gives_iff.mp given) with ⟨value, rfl, -⟩ | ⟨many, matched⟩
    · exact more rfl
    · have refused := (Matcher.matching_eq_ok_iff.mp matched).2
      have listed : vs ≠ [] := List.ne_nil_of_mem empty
      rw [(Matcher.accepts_iff_of_matching_alternatives listed matched "").mpr empty] at refused
      cases refused

/-- Values in a step of a draft and a pattern in an entry of a configuration make matchers that do
not accept the empty value. The empty value beside another one makes none. -/
theorem accepts_empty_iff_isOnlyEmpty_of_two :
    (∃ m, (values "tenant" ["acme", "zeta"]).Gives m ∧ ¬ m.accepts "" = true) ∧
      (∃ m, (pattern "env" "prod|staging").Gives m ∧ ¬ m.accepts "" = true) ∧
      ∀ m, ¬ (values "tenant" ["acme", ""]).Gives m := by
  let source := Pattern.alternatives ["acme", "zeta"]
  have listed : Pattern.isAnchorable source = true := by decide +kernel
  have spelled : Pattern.isAnchorable "prod|staging" = true := by decide +kernel
  let m : Matcher := ⟨"tenant", .regexMatch, source, by decide, fun _ => listed⟩
  let n : Matcher := ⟨"env", .regexMatch, "prod|staging", by decide, fun _ => spelled⟩
  have refused : Pattern.accepts source "" = false ∧ Pattern.accepts "prod|staging" "" = false := by
    constructor <;> decide +kernel
  have some_value : Matcher.oneOf "tenant" ["acme", "zeta"] = .ok m :=
    Matcher.oneOf_eq_ok_iff.mpr
      (.inr ⟨by decide, Matcher.matching_eq_ok_iff.mpr ⟨Matcher.make_self m, refused.1⟩⟩)
  have step : (values "tenant" ["acme", "zeta"]).Gives m := by
    refine .addOneOf (b := {}) ?_
    rw [PolicyDraft.addOneOf, some_value]
    rfl
  have entry : (pattern "env" "prod|staging").Gives n :=
    .regexEntry (Matcher.matching_eq_ok_iff.mpr ⟨Matcher.make_self n, refused.2⟩)
  exact ⟨⟨m, step, mt ((accepts_empty_iff_isOnlyEmpty _).1 m step).mp (by simp [IsOnlyEmpty])⟩,
    ⟨n, entry, mt ((accepts_empty_iff_isOnlyEmpty _).1 n entry).mp id⟩,
    (accepts_empty_iff_isOnlyEmpty _).2 "tenant" ["acme", ""] rfl (by decide) (by decide)⟩

/-- The empty value alone makes a matcher on every route that takes values, and this matcher accepts
the empty value. -/
theorem gives_matcher_of_only_empty :
    let m : Matcher := .equalTo "tenant" "" (by decide)
    Matcher.oneOf "tenant" [""] = .ok m ∧
      PolicyDraft.addOneOf {} "tenant" [""] = .ok (PolicyDraft.add {} m) ∧
      (ConfigEntry.values "tenant" [""]).toMatcher = .ok m ∧ m.accepts "" = true := by
  decide +kernel

end Restriction

end SelectorGuard
