import SelectorGuard.Proofs.Enforcement.Origin
import SelectorGuard.Proofs.Matcher.Stored
import SelectorGuard.Proofs.Policy.Assembly

/-!
# Every matcher in reach is sound

In the course of a session matchers are made in many ways: from their parts, from records at any
depth of a text, as values or patterns of a draft, as entries of a configuration. Then they are
moved about: into trees and policies, out of them, and from a policy into a tree, also by a walk
that stops half way. Each call of a session is put down with the parts that it submits to be judged.
What a call gives holds no matchers but those made from these parts and those that were held before,
so after any number of calls every matcher in reach has been judged.
-/

namespace SelectorGuard

/-! ### What is submitted to be judged -/

namespace Matcher

/-- The parts that restrict a label to literal values: one value is compared with, several are put
into a pattern. -/
def partsOfValues (label : String) : List String → Parts
  | [value] => (.equal, label, value)
  | values => (.regexMatch, label, Pattern.alternatives values)

/-- The parts that documents hold. -/
def partsOfDocuments (allowEmpty : Bool) (documents : List Json) : List Parts :=
  documents.filterMap (parts? allowEmpty)

variable {kind : MatchKind} {name value label pattern : String} {values : List String}
  {m : Matcher} {allowEmpty : Bool}

/-- A matcher has the parts that it is made from. -/
theorem identity_of_make (h : make kind name value = .ok m) : m.identity = (kind, name, value) := by
  obtain ⟨rfl, rfl, rfl⟩ := make_eq_ok h
  rfl

/-- A matcher for a pattern has the parts that say so. -/
theorem identity_of_matching (h : matching label pattern = .ok m) :
    m.identity = (.regexMatch, label, pattern) :=
  identity_of_make (matching_eq_ok_iff.mp h).1

/-- Several values are put into a pattern. -/
theorem partsOfValues_of_two_le (several : 2 ≤ values.length) :
    partsOfValues label values = (.regexMatch, label, Pattern.alternatives values) := by
  match values, several with
  | _ :: _ :: _, _ => rfl

/-- A matcher for values has the parts that restrict its label to them. -/
theorem identity_of_oneOf (h : oneOf label values = .ok m) :
    m.identity = partsOfValues label values := by
  rcases oneOf_eq_ok_iff.mp h with ⟨value, rfl, made⟩ | ⟨several, matched⟩
  · exact identity_of_make made
  · rw [partsOfValues_of_two_le several]
    exact identity_of_matching matched

/-- A matcher that is read from one of some documents has parts that they hold. -/
theorem identity_mem_of_ofJson {documents : List Json} {d : Json} (hd : d ∈ documents)
    (h : ofJson allowEmpty d = .ok m) : m.identity ∈ partsOfDocuments allowEmpty documents := by
  obtain ⟨⟨kind, name, value⟩, held, made⟩ := bind_eq_ok_iff.mp h
  refine List.mem_filterMap.mpr ⟨d, hd, ?_⟩
  rw [identity_of_make (mapError_eq_ok_iff.mp made)]
  exact DecodeFault.require_eq_ok_iff.mp held

end Matcher

/-- The parts that an entry of a configuration stands for. -/
def ConfigEntry.parts : ConfigEntry → Matcher.Parts
  | values label vs => Matcher.partsOfValues label vs
  | regex label pattern => (.regexMatch, label, pattern)
  | explicit label kind value => (kind, label, value)

/-- The matcher of an entry has the parts that the entry stands for. -/
theorem ConfigEntry.identity_of_toMatcher {entry : ConfigEntry} {m : Matcher}
    (h : entry.toMatcher = .ok m) : m.identity = entry.parts := by
  unfold toMatcher at h
  split at h
  · exact Matcher.identity_of_oneOf h
  · exact Matcher.identity_of_matching h
  · exact Matcher.identity_of_matching h
  · exact Matcher.identity_of_make (Matcher.makeRule_eq_ok_iff.mp h)

/-! ### Taking apart and putting together -/

namespace Expr

/-- The expressions that a node is built from. -/
def operands : Expr → List Expr
  | aggregate _ body param _ _ => body :: param.toList
  | binary _ lhs rhs _ _ => [lhs, rhs]
  | call _ args | extension _ args => args
  | subquery body _ _ _ | paren body | unary _ body | matrix body _ => [body]
  | number _ | text _ | vector _ => []

/-- The matchers that a node is built from. -/
def ownMatchers : Expr → List Matcher
  | vector s => s.matchers
  | _ => []

/-- The selectors of expressions one after the other are those of each of them. -/
theorem listSelectors_eq_flatMap (es : List Expr) : listSelectors es = es.flatMap selectors := by
  induction es with
  | nil => rfl
  | cons e rest ih => rw [listSelectors, ih, List.flatMap_cons]

/-- The matchers of expressions one after the other are those of each of them. -/
theorem flatMap_listSelectors (es : List Expr) :
    (listSelectors es).flatMap Selector.matchers = es.flatMap matchers := by
  rw [listSelectors_eq_flatMap, List.flatMap_assoc]
  rfl

/-- The matchers of a tree are those of its root and those of the trees below it. -/
theorem matchers_eq (e : Expr) : e.matchers = e.ownMatchers ++ e.operands.flatMap matchers := by
  cases e with
  | aggregate op body param grouping without =>
    cases param <;> simp [matchers, selectors, optionSelectors, ownMatchers, operands]
  | call func args => exact flatMap_listSelectors args
  | extension kind args => exact flatMap_listSelectors args
  | _ => simp [matchers, selectors, ownMatchers, operands]

end Expr

/-- The expressions of a root. -/
def Root.exprs : Root → List Expr
  | statement s => [s.expr]
  | expressions es => es
  | expr e => [e]

/-- The matchers of a root are those of its expressions. -/
theorem Root.matchers_eq (r : Root) : r.matchers = r.exprs.flatMap Expr.matchers := by
  cases r with
  | statement s => exact (List.append_nil _).symm
  | expressions es => exact Expr.flatMap_listSelectors es
  | expr e => exact (List.append_nil _).symm

/-! ### Sessions -/

/-- Something that holds matchers. -/
inductive Thing where
  /-- A matcher alone. -/
  | matcher (m : Matcher)
  /-- A policy in the making. -/
  | draft (b : PolicyDraft)
  /-- A policy. -/
  | policy (p : Policy)
  /-- A query. -/
  | root (r : Root)

namespace Thing

/-- The matchers that a thing holds. -/
def matchers : Thing → List Matcher
  | matcher m => [m]
  | draft b => b.matchers
  | policy p => p.rules
  | root r => r.matchers

/-- An expression as a query. -/
def expr (e : Expr) : Thing :=
  root (.expr e)

/-- The matchers of an expression. -/
theorem matchers_expr (e : Expr) : (expr e).matchers = e.matchers :=
  rfl

end Thing

/-- A call with some things held: the parts that it submits to be judged, and what it gives. A call
that fails gives nothing, apart from an enforcement, which gives the query as far as it has come. -/
inductive Call (held : List Thing) : List Matcher.Parts → Thing → Prop
  /-- Make a matcher. -/
  | make {kind : MatchKind} {name value : String} {m : Matcher} :
      Matcher.make kind name value = .ok m → Call held [(kind, name, value)] (.matcher m)
  /-- Read a matcher from a text. -/
  | readMatcher {text : String} {m : Matcher} : Matcher.ofText text = .ok m →
      Call held (Matcher.partsOfDocuments false
        [.object (Json.streamRecord ["name", "op", "value"] text.toList).entries]) (.matcher m)
  /-- Restrict a label to values. -/
  | oneOf {label : String} {values : List String} {m : Matcher} :
      Matcher.oneOf label values = .ok m →
      Call held [Matcher.partsOfValues label values] (.matcher m)
  /-- Restrict a label to a pattern. -/
  | matching {label pattern : String} {m : Matcher} : Matcher.matching label pattern = .ok m →
      Call held [(.regexMatch, label, pattern)] (.matcher m)
  /-- Make the matcher of an entry of a configuration. -/
  | entry {entry : ConfigEntry} {m : Matcher} : entry.toMatcher = .ok m →
      Call held [entry.parts] (.matcher m)
  /-- Begin a draft. -/
  | draft : Call held [] (.draft {})
  /-- Set the strictness of a draft. -/
  | setStrict (strict : Bool) {b : PolicyDraft} : .draft b ∈ held →
      Call held [] (.draft (b.setStrict strict))
  /-- Add a matcher to a draft. -/
  | add {b : PolicyDraft} {m : Matcher} : .draft b ∈ held → .matcher m ∈ held →
      Call held [] (.draft (b.add m))
  /-- Add a restriction to values to a draft. -/
  | addOneOf {b more : PolicyDraft} {label : String} {values : List String} : .draft b ∈ held →
      b.addOneOf label values = .ok more →
      Call held [Matcher.partsOfValues label values] (.draft more)
  /-- Add a restriction to a pattern to a draft. -/
  | addMatching {b more : PolicyDraft} {label pattern : String} : .draft b ∈ held →
      b.addMatching label pattern = .ok more →
      Call held [(.regexMatch, label, pattern)] (.draft more)
  /-- Make the policy of a draft. -/
  | build {b : PolicyDraft} : .draft b ∈ held → Call held [] (.policy b.build)
  /-- Make the policy of some matchers. -/
  | policy (strict : Bool) {ms : List Matcher} : (∀ m ∈ ms, .matcher m ∈ held) →
      Call held [] (.policy (.ofList strict ms))
  /-- Make the policy of a configuration, be it one that a text gives or another one. -/
  | config {c : PolicyConfig} {p : Policy} : c.toPolicy = .ok p →
      Call held (c.entries.map ConfigEntry.parts) (.policy p)
  /-- Read an expression from a text. -/
  | readExpr {text : String} {j : Json} {e : Expr} : Expr.ofText text = .ok e →
      Json.read? text = some j → Call held (Matcher.partsOfDocuments true j.documents) (.expr e)
  /-- Read a statement from a text. -/
  | readStatement {text : String} {s : Statement} : Statement.ofText text = .ok s →
      Call held (Matcher.partsOfDocuments true
        ((Json.streamRecord Statement.fieldNames text.toList).entries.flatMap fun entry =>
          entry.2.documents)) (.root (.statement s))
  /-- Build a node of expressions and matchers. -/
  | node {e : Expr} : (∀ m ∈ e.ownMatchers, .matcher m ∈ held) →
      (∀ body ∈ e.operands, .expr body ∈ held) → Call held [] (.expr e)
  /-- Put expressions together to a query. -/
  | query {r : Root} : (∀ e ∈ r.exprs, .expr e ∈ held) → Call held [] (.root r)
  /-- Take a matcher out of anything. -/
  | matcherOf {x : Thing} {m : Matcher} : x ∈ held → m ∈ x.matchers → Call held [] (.matcher m)
  /-- Take an expression out of a query. -/
  | exprOf {r : Root} {e : Expr} : .root r ∈ held → e ∈ r.exprs → Call held [] (.expr e)
  /-- Take an expression out of a node. -/
  | operandOf {e body : Expr} : .expr e ∈ held → body ∈ e.operands → Call held [] (.expr body)
  /-- Reconcile matchers with a policy and take one of the result. -/
  | reconcile {p : Policy} {ms reconciled : List Matcher} {m : Matcher} : .policy p ∈ held →
      (∀ m ∈ ms, .matcher m ∈ held) → p.reconcile ms = .ok reconciled → m ∈ reconciled →
      Call held [] (.matcher m)
  /-- Enforce a policy on a query, whether that goes through or stops. -/
  | enforce {p : Policy} {r : Root} : .policy p ∈ held → .root r ∈ held →
      Call held [] (.root (p.enforceRoot r).result)

/-- A run of calls, each with what the earlier ones have given: all parts that have been submitted
to be judged, and all things that are held. -/
inductive Run : List Matcher.Parts → List Thing → Prop
  /-- There is nothing at first. -/
  | start : Run [] []
  /-- Another call. -/
  | call {judged more : List Matcher.Parts} {held : List Thing} {x : Thing} :
      Run judged held → Call held more x → Run (more ++ judged) (x :: held)

/-- What holds of the only matcher holds of all. -/
theorem Thing.forall_matcher {P : Matcher → Prop} {m : Matcher} (h : P m) :
    ∀ n ∈ (Thing.matcher m).matchers, P n :=
  List.forall_mem_singleton.mpr h

/-- What holds of the matchers of a draft and of another one holds when that has been added. -/
theorem PolicyDraft.forall_matchers_of_map_add {P : Matcher → Prop} {b more : PolicyDraft}
    {step : Except PolicyError Matcher} (h : step.map b.add = .ok more)
    (before : ∀ m ∈ b.matchers, P m) (added : ∀ m, step = .ok m → P m) :
    ∀ m ∈ more.matchers, P m := by
  obtain ⟨m, made, h⟩ := bind_eq_ok_iff.mp h
  cases h
  exact List.forall_mem_append.mpr ⟨before, List.forall_mem_singleton.mpr (added m made)⟩

/-- A matcher that a call gives has parts that the call submits to be judged, or is one of those
that were held before. -/
theorem Call.judged_or_held {held : List Thing} {more : List Matcher.Parts} {x : Thing}
    (call : Call held more x) :
    ∀ m ∈ x.matchers, m.identity ∈ more ∨ ∃ y ∈ held, m ∈ y.matchers := by
  have of_identity {m : Matcher} {parts : Matcher.Parts} (h : m.identity = parts) :
      m.identity ∈ [parts] ∨ ∃ y ∈ held, m ∈ y.matchers := .inl (List.mem_singleton.mpr h)
  cases call with
  | make made => exact Thing.forall_matcher (of_identity (Matcher.identity_of_make made))
  | readMatcher read =>
    refine Thing.forall_matcher (.inl ?_)
    exact Matcher.identity_mem_of_ofJson List.mem_cons_self (Matcher.ofJson_of_ofText read)
  | oneOf made => exact Thing.forall_matcher (of_identity (Matcher.identity_of_oneOf made))
  | matching made => exact Thing.forall_matcher (of_identity (Matcher.identity_of_matching made))
  | entry made => exact Thing.forall_matcher (of_identity (ConfigEntry.identity_of_toMatcher made))
  | draft => exact nofun
  | setStrict _ given => exact fun m hm => .inr ⟨_, given, hm⟩
  | add given added =>
    refine List.forall_mem_append.mpr ⟨fun m hm => .inr ⟨_, given, hm⟩, ?_⟩
    exact List.forall_mem_singleton.mpr (.inr ⟨_, added, List.mem_cons_self⟩)
  | addOneOf given step =>
    exact PolicyDraft.forall_matchers_of_map_add step (fun m hm => .inr ⟨_, given, hm⟩)
      fun m made => of_identity (Matcher.identity_of_oneOf made)
  | addMatching given step =>
    exact PolicyDraft.forall_matchers_of_map_add step (fun m hm => .inr ⟨_, given, hm⟩)
      fun m made => of_identity (Matcher.identity_of_matching made)
  | build given => exact fun m hm => .inr ⟨_, given, Policy.mem_of_mem_rules_ofList hm⟩
  | policy _ given =>
    exact fun m hm => .inr ⟨_, given m (Policy.mem_of_mem_rules_ofList hm), List.mem_cons_self⟩
  | config made =>
    intro m hm
    obtain ⟨entry, given, judged⟩ := PolicyConfig.exists_toMatcher_of_mem_rules made hm
    refine .inl (List.mem_map.mpr ⟨entry, given, ?_⟩)
    exact (ConfigEntry.identity_of_toMatcher judged).symm
  | readExpr read document =>
    intro m hm
    -- The document of the call is the one that the expression has been read from.
    obtain ⟨j, same, given⟩ := Expr.exists_read?_of_ofText read
    obtain rfl := Option.some.inj (document.symm.trans same)
    obtain ⟨d, hd, made⟩ := Expr.exists_document_of_mem_matchers given m hm
    exact .inl (Matcher.identity_mem_of_ofJson hd made)
  | readStatement read =>
    intro m hm
    obtain ⟨entry, he, given⟩ := Statement.exists_entry_of_ofText read
    obtain ⟨d, hd, made⟩ := Expr.exists_document_of_mem_matchers given m hm
    exact .inl (Matcher.identity_mem_of_ofJson (List.mem_flatMap.mpr ⟨entry, he, hd⟩) made)
  | node own operands =>
    intro m hm
    rw [Thing.matchers_expr, Expr.matchers_eq, List.mem_append, List.mem_flatMap] at hm
    rcases hm with hm | ⟨body, below, hm⟩
    · exact .inr ⟨_, own m hm, List.mem_cons_self⟩
    · exact .inr ⟨_, operands body below, hm⟩
  | query exprs =>
    intro m hm
    rw [Thing.matchers, Root.matchers_eq, List.mem_flatMap] at hm
    obtain ⟨e, inside, hm⟩ := hm
    exact .inr ⟨_, exprs e inside, hm⟩
  | matcherOf given inside => exact Thing.forall_matcher (.inr ⟨_, given, inside⟩)
  | exprOf given inside =>
    refine fun m hm => .inr ⟨_, given, ?_⟩
    rw [Thing.matchers, Root.matchers_eq, List.mem_flatMap]
    exact ⟨_, inside, hm⟩
  | operandOf given inside =>
    refine fun m hm => .inr ⟨_, given, ?_⟩
    rw [Thing.matchers_expr, Expr.matchers_eq, List.mem_append, List.mem_flatMap]
    exact .inr ⟨_, inside, hm⟩
  | reconcile given targets reconciled inside =>
    refine Thing.forall_matcher ?_
    rcases Policy.mem_or_mem_rules_of_reconcile reconciled _ inside with target | required
    · exact .inr ⟨_, targets _ target, List.mem_cons_self⟩
    · exact .inr ⟨_, given, required⟩
  | enforce given queried =>
    intro m hm
    rcases Policy.mem_or_mem_rules_of_enforceRoot _ _ m hm with before | required
    · exact .inr ⟨_, queried, before⟩
    · exact .inr ⟨_, given, required⟩

namespace Run

variable {judged : List Matcher.Parts} {held : List Thing}

/-- Every matcher that is held has parts that have been submitted to be judged. -/
theorem identity_mem_judged (run : Run judged held) :
    ∀ x ∈ held, ∀ m ∈ x.matchers, m.identity ∈ judged := by
  induction run with
  | start => exact nofun
  | call _ call ih =>
    refine List.forall_mem_cons.mpr ⟨fun m hm => ?_, fun y hy m hm => ?_⟩
    · rcases call.judged_or_held m hm with new | ⟨y, hy, inside⟩
      · exact List.mem_append_left _ new
      · exact List.mem_append_right _ (ih y hy m inside)
    · exact List.mem_append_right _ (ih y hy m hm)

/-- After any run of calls, also of such as read texts and of walks that have stopped, every matcher
that is held anywhere has been judged: its parts have been submitted in the run, and it is stored as
the record that making gives for them. This record is sound: the label name is a letter or an
underscore and then letters, digits and underscores, and there is a compiled pattern, namely the one
that the operand spells between anchors, just for the pattern kinds. So a matcher never falls back
when it is asked about a value. Of two opposite matchers for a label name and an operand, if they
can be made, exactly one accepts any given value. -/
theorem held_matchers_sound (run : Run judged held) :
    (∀ x ∈ held, ∀ m ∈ x.matchers, m.identity ∈ judged ∧
      Stored.make m.kind m.name m.value = .ok m.stored ∧ m.stored.Sound ∧
        ∀ probe, m.stored.answer? probe = some (m.accepts probe)) ∧
    ∀ kind name value,
      (∃ m n, Matcher.make kind name value = .ok m ∧
        Matcher.make kind.opposite name value = .ok n ∧
          ∀ probe, n.accepts probe = !m.accepts probe) ∨
      ∃ e, Matcher.make kind name value = .error e ∧
        Matcher.make kind.opposite name value = .error e := by
  refine ⟨fun x hx m hm => ?_, Matcher.make_opposite⟩
  have sound : m.stored.Sound := (Stored.make_eq_ok_iff.mp m.make_stored).2
  refine ⟨run.identity_mem_judged x hx m hm, m.make_stored, sound, fun probe => ?_⟩
  rw [sound.answer?_eq, m.accepts_stored]

/-- A call is read whose second argument is an extension node, and a walk stops there. The query
that it leaves behind has a pattern from the text and the matcher of the policy, both of them
judged. -/
theorem held_matchers_sound_after_stopped_walk :
    let text := "[\"call\",\"f\",[[\"vector_selector\",null," ++
      "[[\"env\",\"regex_match\",\"prod|staging\"]]],[\"extension\",\"window\"]]]"
    ∃ e judged held, Expr.ofText text = .ok e ∧ Run judged held ∧
      let walked := (Policy.forTenant false "acme").enforceRoot (.expr e)
      walked.outcome = .unhandled "window" ∧ .root walked.result ∈ held ∧
        walked.result.matchers.map Matcher.canonical =
          ["env=~\"prod|staging\"", "tenant=\"acme\""] ∧
        ∀ m ∈ walked.result.matchers, m.identity ∈ judged ∧ m.stored.Sound := by
  intro text
  obtain ⟨e, read, stopped, left⟩ := Expr.exists_read_of_any text
    (fun e => ((Policy.forTenant false "acme").enforceRoot (.expr e)).outcome =
        .unhandled "window" ∧
      ((Policy.forTenant false "acme").enforceRoot (.expr e)).result.matchers.map
        Matcher.canonical = ["env=~\"prod|staging\"", "tenant=\"acme\""]) (by decide +kernel)
  obtain ⟨j, document, -⟩ := Expr.exists_read?_of_ofText read
  let tenant : Matcher := .equalTo "tenant" "acme" (by decide)
  have made := Run.start.call (.make (Matcher.make_self tenant))
  have required : ∀ m ∈ [tenant], Thing.matcher m ∈ [.matcher tenant] :=
    List.forall_mem_singleton.mpr List.mem_cons_self
  have policy : Call [.matcher tenant] [] (.policy (Policy.forTenant false "acme")) :=
    .policy false required
  have run := ((made.call policy).call (.readExpr read document)).call
    (.enforce (List.mem_cons_of_mem _ List.mem_cons_self) List.mem_cons_self)
  refine ⟨e, _, _, read, run, stopped, List.mem_cons_self, left, fun m hm => ?_⟩
  obtain ⟨judged, -, sound, -⟩ := run.held_matchers_sound.1 _ List.mem_cons_self m hm
  exact ⟨judged, sound⟩

end Run

end SelectorGuard
