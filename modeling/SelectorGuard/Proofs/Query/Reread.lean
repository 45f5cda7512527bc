import SelectorGuard.Proofs.Decimal.Numeral
import SelectorGuard.Proofs.Matcher.Identity
import SelectorGuard.Query.Decode

/-!
# Expressions are read as they are written

What an expression is written as is read as the same expression, but that every number is read from
its numeral. Numbers alone can keep it from being read: those without a numeral, and those whose
numeral is not read in the quick way. All other parts, matchers included, are read as themselves.
Two expressions that differ in numbers only are the same just if the numbers are equal one by one.
-/

namespace SelectorGuard

/-- The number that is read from the numeral of a number, if both can be done. -/
def Numeral.reread? (x : Float) : Option Float :=
  (ofFloat? x).bind toFloat?

namespace Json

/-- A natural number of 64 bits is read as itself. -/
theorem word?_ofNat {n : Nat} (h : n ≤ Numeral.maxWord) : (ofNat n).word? = some n :=
  Numeral.toWord?_ofNat h

/-- Texts are read as themselves. -/
theorem strings?_ofStrings (texts : List String) : (ofStrings texts).strings? = some texts := by
  induction texts with
  | nil => rfl
  | cons text rest ih =>
    simp only [ofStrings, strings?, List.map_cons, List.mapM_cons] at ih ⊢
    simp [string?, ih]

/-- A number is read from the numeral that it is written as. -/
theorem float?_ofFloat (x : Float) : (ofFloat x).float? = Numeral.reread? x := by
  unfold ofFloat Numeral.reread?
  cases Numeral.ofFloat? x <;> rfl

end Json

open DecodeFault (require)

/-! ### Parts without expressions -/

/-- A duration is read as itself. -/
theorem Duration.ofJson?_toJson (d : Duration) : ofJson? d.toJson = some d := by
  obtain ⟨seconds, nanos⟩ := d
  have bound := nanos.isLt
  have hs := seconds.toNat_lt
  have secs : (Json.ofNat seconds.toNat).word? = some seconds.toNat :=
    Json.word?_ofNat (by simp only [Numeral.maxWord]; omega)
  have rest : (Json.ofNat nanos.val).word? = some nanos.val :=
    Json.word?_ofNat (by simp only [Numeral.maxWord]; omega)
  have fields : (toJson ⟨seconds, nanos⟩).fields? true ["secs", "nanos"] =
      some [some (.ofNat seconds.toNat), some (.ofNat nanos.val)] :=
    rfl
  have parts : ofParts? seconds.toNat nanos.val = some ⟨seconds, nanos⟩ := by
    have whole : seconds.toNat + nanos.val / 1000000000 = seconds.toNat := by omega
    simp only [ofParts?, whole, Nat.mod_eq_of_lt bound, UInt64.ofNat_toNat]
    exact if_pos hs
  simp only [ofJson?, fields, Option.bind_eq_bind, Option.bind_some, secs, rest, parts]
  exact if_pos (by omega)

/-- A vector matching is read as itself. -/
theorem VectorMatching.ofJson?_toJson (v : VectorMatching) : ofJson? v.toJson = some v := by
  obtain ⟨card, on, labels, includes⟩ := v
  have fields : (toJson ⟨card, on, labels, includes⟩).fields? false
      ["card", "on", "labels", "include"] = some [some (.string card.keyword), some (.bool on),
        some (.ofStrings labels), some (.ofStrings includes)] :=
    rfl
  have cards : (Json.string card.keyword).choice? true Cardinality.keyword Cardinality.all =
      some card := by
    cases card <;> rfl
  simp only [ofJson?, fields, Option.bind_eq_bind, Option.bind_some, Json.orDefault, cards,
    Json.bool?, Json.strings?_ofStrings, Option.pure_def]

/-- A matcher is read as itself. -/
theorem Matcher.ofJson_toJson (m : Matcher) : ofJson true m.toJson = .ok m := by
  have kind : MatchKind.ofJson? true (.string m.kind.keyword) = some m.kind := by
    cases m.kind <;> rfl
  have fields : m.toJson.fields? false ["name", "op", "value"] =
      some [some (.string m.name), some (.string m.kind.keyword), some (.string m.value)] :=
    rfl
  have parts : parts? true m.toJson = some (m.kind, m.name, m.value) := by
    simp only [parts?, fields, Option.bind_eq_bind, Option.bind_some, kind, Json.string?,
      Option.pure_def]
  rw [ofJson, parts]
  exact mapError_eq_ok_iff.mpr (make_self m)

/-- Matchers are read as themselves. -/
theorem Matcher.mapM_ofJson_toJson (ms : List Matcher) :
    (ms.map Matcher.toJson).mapM (Matcher.ofJson true) = .ok ms := by
  induction ms with
  | nil => rfl
  | cons m ms ih =>
    rw [List.map_cons, List.mapM_cons, ofJson_toJson, ih]
    rfl

namespace Expr

mutual

/-- The expression with every number read from its numeral, if this can be done. -/
def reread? : Expr → Option Expr
  | aggregate op body param grouping without => do
    return aggregate op (← reread? body) (← optionReread? param) grouping without
  | binary op lhs rhs returnBool matching => do
    return binary op (← reread? lhs) (← reread? rhs) returnBool matching
  | call func args => do return call func (← listReread? args)
  | subquery body range step offset => do return subquery (← reread? body) range step offset
  | paren body => do return paren (← reread? body)
  | unary op body => do return unary op (← reread? body)
  | number value => do return number (← Numeral.reread? value)
  | text value => return text value
  | matrix body range => do return matrix (← reread? body) range
  | vector s => return vector s
  | extension kind args => do return extension kind (← listReread? args)

/-- Expressions with every number read from its numeral. -/
def listReread? : List Expr → Option (List Expr)
  | [] => some []
  | e :: rest => do return (← reread? e) :: (← listReread? rest)

/-- An expression that may be missing with every number read from its numeral. -/
def optionReread? : Option Expr → Option (Option Expr)
  | none => some none
  | some e => do return some (← reread? e)

end

/-! ### Nodes -/

/-- A node is read by its fields, if none of them is named as the tag is. -/
theorem content_node {nested : Bool} {kind : Kind} {fields : List (String × Json)}
    (untagged : ∀ m ∈ fields, m.1 ≠ "type") :
    content nested .expr (node kind fields) =
      memberContents kind.fields [] fields >>= finish kind := by
  have tags : Kind.ofMembers? nested (("type", .string kind.keyword) :: fields) = some kind := by
    have others : fields.filter (fun m => m.1 == "type") = [] :=
      List.filter_eq_nil_iff.mpr fun m hm => by simpa using untagged m hm
    have tag : Kind.ofTag? nested (.string kind.keyword) = some kind := by
      cases kind <;> rfl
    rw [Kind.ofMembers?, List.filter_cons_of_pos (by simp), others]
    exact tag
  have skipped : memberContents kind.fields [] (("type", .string kind.keyword) :: fields) =
      memberContents kind.fields [] fields := by
    have untyped : (kind.fields.find? fun f => f.name == "type") = none := by
      cases kind <;> rfl
    simp only [memberContents, untyped]
  simp only [node, content, tags]
  exact congrArg (fun found => found >>= finish kind) skipped

/-- The content of a field without expressions in it does not depend on where the node stands. -/
theorem content_of_leaf {shape : Shape} (h : shape ≠ .expr ∧ shape ≠ .exprs) (nested : Bool)
    (j : Json) : content nested shape j = shape.leaf j := by
  cases j <;> cases shape <;> first | rfl | exact absurd rfl h.1 | exact absurd rfl h.2

/-- A text is read as itself. -/
theorem content_text (nested : Bool) (s : String) :
    content nested .text (.string s) = .ok (.text s) :=
  content_of_leaf (by decide) nested _

/-- Texts are read as themselves, as the content of a field. -/
theorem content_texts (nested : Bool) (texts : List String) :
    content nested .texts (.ofStrings texts) = .ok (.texts texts) := by
  rw [content_of_leaf (by decide), Shape.leaf, Json.strings?_ofStrings]
  rfl

/-- A truth value is read as itself. -/
theorem content_flag (nested : Bool) (b : Bool) :
    content nested .flag (.bool b) = .ok (.flag b) :=
  content_of_leaf (by decide) nested _

/-- A duration is read as itself, as the content of a field. -/
theorem content_duration (nested : Bool) (d : Duration) :
    content nested .duration d.toJson = .ok (.duration d) := by
  rw [content_of_leaf (by decide), Shape.leaf, Duration.ofJson?_toJson]
  rfl

/-- An aggregation is read from its keyword. -/
theorem content_aggregator (nested : Bool) (op : Aggregator) :
    content nested .aggregator (.string op.keyword) = .ok (.aggregator op) := by
  cases op <;> rfl

/-- A binary operator is read from its keyword. -/
theorem content_binaryOperator (nested : Bool) (op : BinaryOperator) :
    content nested .binaryOperator (.string op.keyword) = .ok (.binaryOperator op) := by
  cases op <;> rfl

/-- A unary operator is read from its keyword. -/
theorem content_unaryOperator (nested : Bool) (op : UnaryOperator) :
    content nested .unaryOperator (.string op.keyword) = .ok (.unaryOperator op) := by
  cases op <;> rfl

/-- A vector matching is read as itself, as the content of a field. -/
theorem content_matching (nested : Bool) (v : VectorMatching) :
    content nested .matching v.toJson = .ok (.matching v) := by
  rw [content_of_leaf (by decide), Shape.leaf, VectorMatching.ofJson?_toJson]
  rfl

/-- Matchers are read as themselves, as the content of a field. -/
theorem content_matchers (nested : Bool) (ms : List Matcher) :
    content nested .matchers (.array (ms.map Matcher.toJson)) = .ok (.matchers ms) := by
  rw [content_of_leaf (by decide), Shape.leaf, Matcher.mapM_ofJson_toJson]
  rfl

/-- A number is read from its numeral, as the content of a field. -/
theorem content_number (nested : Bool) (x : Float) :
    content nested .number (.ofFloat x) = (require (Numeral.reread? x)).map .number := by
  rw [content_of_leaf (by decide), Shape.leaf, Json.float?_ofFloat]

/-- A list is read item by item. -/
theorem content_exprs (nested : Bool) (items : List Json) :
    content nested .exprs (.array items) = (exprContents items).map .exprs := by
  rw [content]
  cases exprContents items <;> rfl

/-- A member of a field that has not been seen is read, and then those behind it. -/
theorem memberContents_cons (f : Field) {fields : List Field} {seen : List String} {j : Json}
    {rest : List (String × Json)} (known : (fields.find? fun g => g.name == f.name) = some f)
    (fresh : seen.contains f.name = false) (present : f.presence = .optional → j ≠ .null) :
    memberContents fields seen ((f.name, j) :: rest) = do
      let c ← content true f.shape j
      let others ← memberContents fields (f.name :: seen) rest
      return (f.name, c) :: others := by
  simp only [memberContents, known, fresh, Bool.false_eq_true, if_false]

/-- The content of a field that is there. -/
def Field.read (f : Field) (j : Json) : Except DecodeFault Content :=
  match f.presence, j with
  | .optional, .null => .ok .nothing
  | _, _ => content true f.shape j

/-- A field that is there holds what its shape says, or nothing for null if it may be missing. -/
theorem Field.content_of_read {f : Field} {j : Json} {c : Content} (h : f.read j = .ok c) :
    c = .nothing ∨ ∃ shape, content true shape j = .ok c := by
  unfold read at h
  split at h
  · cases h
    exact .inl rfl
  · exact .inr ⟨f.shape, h⟩

/-- A member that no field has a name for is passed over. -/
theorem memberContents_cons_of_unknown {fields : List Field} {name : String}
    (unknown : (fields.find? fun f => f.name == name) = none) (seen : List String) (j : Json)
    (rest : List (String × Json)) :
    memberContents fields seen ((name, j) :: rest) = memberContents fields seen rest := by
  simp only [memberContents, unknown]

/-- A member is read as the content of its field, which must not have been seen. -/
theorem memberContents_cons_of_known {fields : List Field} {name : String} {f : Field}
    (known : (fields.find? fun f => f.name == name) = some f) {seen : List String} {j : Json}
    {rest : List (String × Json)} {found : List (String × Content)} :
    memberContents fields seen ((name, j) :: rest) = .ok found ↔
      name ∉ seen ∧ ∃ c, f.read j = .ok c ∧ ∃ others,
        memberContents fields (name :: seen) rest = .ok others ∧ (name, c) :: others = found := by
  have step : memberContents fields seen ((name, j) :: rest) =
      if seen.contains name then .error .malformed
      else f.read j >>= fun c => memberContents fields (name :: seen) rest >>= fun others =>
        .ok ((name, c) :: others) := by
    rw [memberContents.eq_def]
    simp only [known]
    split
    · rfl
    · obtain ⟨_, shape, presence⟩ := f
      cases presence <;> cases j <;> rfl
  rw [step]
  split
  · next listed =>
    exact iff_of_false nofun fun h => h.1 (List.contains_iff_mem.mp listed)
  · next fresh =>
    simp only [bind_eq_ok_iff, Except.ok.injEq]
    exact (and_iff_right fun listed => fresh (List.contains_iff_mem.mpr listed)).symm

/-- An item is read as the content of the next field. -/
theorem itemContents_cons (f : Field) (fields : List Field) (j : Json) (rest : List Json) :
    itemContents (f :: fields) (j :: rest) = do
      let c ← f.read j
      return (f.name, c) :: (← itemContents fields rest) := by
  obtain ⟨name, shape, presence⟩ := f
  rw [itemContents.eq_def]
  cases presence <;> cases j <;> rfl

/-- Nothing is written of a field that is missing. -/
@[simp] theorem optionalMember_none (name : String) : optionalMember name none = [] :=
  rfl

/-- A field that is there is a member. -/
@[simp] theorem optionalMember_some (name : String) (j : Json) :
    optionalMember name (some j) = [(name, j)] :=
  rfl

/-- A field that may be missing, last in a node, is read if it is there. -/
theorem memberContents_last {α : Type} (f : Field) {fields : List Field} {seen : List String}
    {write : α → Json} {hold : α → Content}
    (known : (fields.find? fun g => g.name == f.name) = some f)
    (fresh : seen.contains f.name = false) (present : ∀ a, write a ≠ .null)
    (reads : ∀ a, content true f.shape (write a) = .ok (hold a)) (value : Option α) :
    memberContents fields seen (optionalMember f.name (value.map write)) =
      .ok (value.toList.map fun a => (f.name, hold a)) := by
  cases value with
  | none => rfl
  | some a =>
    dsimp only [Option.map, optionalMember]
    rw [memberContents_cons f known fresh fun _ => present a, reads]
    rfl

/-- No expression is written as null. -/
theorem toJson_ne_null (e : Expr) : toJson e ≠ .null := by
  cases e <;> exact nofun

mutual

/-- What an expression is written as is read as the expression with every number read from its
numeral. -/
theorem content_toJson : ∀ (nested : Bool) (e : Expr),
    content nested .expr (toJson e) = (require (reread? e)).map .expr
  | nested, aggregate op body none grouping without => by
    rw [toJson, content_node (by simp [optionToJson])]
    dsimp only [optionToJson, optionalMember_none, optionalMember_some, List.cons_append,
      List.nil_append]
    rw [memberContents_cons ⟨"op", .aggregator, .required⟩ rfl rfl nofun,
      memberContents_cons ⟨"expr", .expr, .required⟩ rfl rfl nofun,
      memberContents_cons ⟨"grouping", .texts, .defaulted⟩ rfl rfl nofun,
      memberContents_cons ⟨"without", .flag, .defaulted⟩ rfl rfl nofun,
      content_aggregator, content_toJson true body, content_texts, content_flag, reread?]
    cases reread? body <;> rfl
  | nested, aggregate op body (some param) grouping without => by
    rw [toJson, content_node (by simp [optionToJson])]
    dsimp only [optionToJson, optionalMember_none, optionalMember_some, List.cons_append,
      List.nil_append]
    rw [memberContents_cons ⟨"op", .aggregator, .required⟩ rfl rfl nofun,
      memberContents_cons ⟨"expr", .expr, .required⟩ rfl rfl nofun,
      memberContents_cons ⟨"param", .expr, .optional⟩ rfl rfl fun _ => toJson_ne_null param,
      memberContents_cons ⟨"grouping", .texts, .defaulted⟩ rfl rfl nofun,
      memberContents_cons ⟨"without", .flag, .defaulted⟩ rfl rfl nofun,
      content_aggregator, content_toJson true body, content_toJson true param, content_texts,
      content_flag, reread?, optionReread?]
    cases reread? body <;> cases reread? param <;> rfl
  | nested, binary op lhs rhs returnBool matching => by
    rw [toJson, content_node (by cases matching <;> simp)]
    dsimp only [List.cons_append, List.nil_append]
    rw [memberContents_cons ⟨"op", .binaryOperator, .required⟩ rfl rfl nofun,
      memberContents_cons ⟨"lhs", .expr, .required⟩ rfl rfl nofun,
      memberContents_cons ⟨"rhs", .expr, .required⟩ rfl rfl nofun,
      memberContents_cons ⟨"return_bool", .flag, .defaulted⟩ rfl rfl nofun,
      memberContents_last ⟨"matching", .matching, .optional⟩ rfl rfl nofun (content_matching true),
      content_binaryOperator, content_toJson true lhs, content_toJson true rhs, content_flag,
      reread?]
    cases reread? lhs <;> cases reread? rhs <;> cases matching <;> rfl
  | nested, call func args => by
    rw [toJson, content_node (by simp),
      memberContents_cons ⟨"func", .text, .required⟩ rfl rfl nofun,
      memberContents_cons ⟨"args", .exprs, .defaulted⟩ rfl rfl nofun,
      content_text, content_exprs, exprContents_listToJson args, reread?]
    cases listReread? args <;> rfl
  | nested, subquery body range none offset => by
    rw [toJson, content_node (by cases offset <;> simp)]
    dsimp only [Option.map_none, optionalMember_none, List.cons_append, List.nil_append]
    rw [memberContents_cons ⟨"expr", .expr, .required⟩ rfl rfl nofun,
      memberContents_cons ⟨"range", .duration, .required⟩ rfl rfl nofun,
      memberContents_last ⟨"offset", .duration, .optional⟩ rfl rfl nofun (content_duration true),
      content_toJson true body, content_duration, reread?]
    cases reread? body <;> cases offset <;> rfl
  | nested, subquery body range (some step) offset => by
    rw [toJson, content_node (by cases offset <;> simp)]
    dsimp only [Option.map_some, optionalMember_some, List.cons_append, List.nil_append]
    rw [memberContents_cons ⟨"expr", .expr, .required⟩ rfl rfl nofun,
      memberContents_cons ⟨"range", .duration, .required⟩ rfl rfl nofun,
      memberContents_cons ⟨"step", .duration, .optional⟩ rfl rfl
        fun _ => (nofun : step.toJson ≠ .null),
      memberContents_last ⟨"offset", .duration, .optional⟩ rfl rfl nofun (content_duration true),
      content_toJson true body, content_duration, content_duration, reread?]
    cases reread? body <;> cases offset <;> rfl
  | nested, paren body => by
    rw [toJson, content_node (by simp),
      memberContents_cons ⟨"expr", .expr, .required⟩ rfl rfl nofun,
      content_toJson true body, reread?]
    cases reread? body <;> rfl
  | nested, unary op body => by
    rw [toJson, content_node (by simp),
      memberContents_cons ⟨"op", .unaryOperator, .required⟩ rfl rfl nofun,
      memberContents_cons ⟨"expr", .expr, .required⟩ rfl rfl nofun, content_unaryOperator,
      content_toJson true body, reread?]
    cases reread? body <;> rfl
  | nested, number value => by
    rw [toJson, content_node (by simp),
      memberContents_cons ⟨"value", .number, .required⟩ rfl rfl nofun, content_number, reread?]
    cases Numeral.reread? value <;> rfl
  | nested, text value => by
    rw [toJson, content_node (by simp),
      memberContents_cons ⟨"value", .text, .required⟩ rfl rfl nofun, content_text, reread?]
    rfl
  | nested, matrix body range => by
    rw [toJson, content_node (by simp),
      memberContents_cons ⟨"vector_selector", .expr, .required⟩ rfl rfl nofun,
      memberContents_cons ⟨"range", .duration, .required⟩ rfl rfl nofun,
      content_toJson true body, content_duration, reread?]
    cases reread? body <;> rfl
  | nested, vector ⟨none, matchers, offset⟩ => by
    rw [toJson, content_node (by cases offset <;> simp)]
    dsimp only [Option.map_none, optionalMember_none, List.cons_append, List.nil_append]
    rw [memberContents_cons ⟨"matchers", .matchers, .defaulted⟩ rfl rfl nofun,
      memberContents_last ⟨"offset", .duration, .optional⟩ rfl rfl nofun (content_duration true),
      content_matchers, reread?]
    cases offset <;> rfl
  | nested, vector ⟨some name, matchers, offset⟩ => by
    rw [toJson, content_node (by cases offset <;> simp)]
    dsimp only [Option.map_some, optionalMember_some, List.cons_append, List.nil_append]
    rw [memberContents_cons ⟨"name", .text, .optional⟩ rfl rfl
        fun _ => (nofun : Json.string name ≠ .null),
      memberContents_cons ⟨"matchers", .matchers, .defaulted⟩ rfl rfl nofun,
      memberContents_last ⟨"offset", .duration, .optional⟩ rfl rfl nofun (content_duration true),
      content_text, content_matchers, reread?]
    cases offset <;> rfl
  | nested, extension kind args => by
    rw [toJson, content_node (by simp),
      memberContents_cons ⟨"kind", .text, .required⟩ rfl rfl nofun,
      memberContents_cons ⟨"args", .exprs, .defaulted⟩ rfl rfl nofun,
      content_text, content_exprs, exprContents_listToJson args, reread?]
    cases listReread? args <;> rfl

/-- Expressions are read one after the other. -/
theorem exprContents_listToJson : ∀ es : List Expr,
    exprContents (listToJson es) = require (listReread? es)
  | [] => rfl
  | e :: rest => by
    have h := content_toJson true e
    have ih := exprContents_listToJson rest
    simp only [listToJson, exprContents, listReread?, h, ih]
    cases reread? e with
    | none => rfl
    | some e' => cases listReread? rest <;> rfl

end

/-! ### Numbers -/

mutual

/-- The numbers of an expression in order. -/
def numbers : Expr → List Float
  | aggregate _ body param _ _ => numbers body ++ optionNumbers param
  | binary _ lhs rhs _ _ => numbers lhs ++ numbers rhs
  | call _ args => listNumbers args
  | subquery body _ _ _ => numbers body
  | paren body => numbers body
  | unary _ body => numbers body
  | number value => [value]
  | text _ => []
  | matrix body _ => numbers body
  | vector _ => []
  | extension _ args => listNumbers args

/-- The numbers of expressions one after the other. -/
def listNumbers : List Expr → List Float
  | [] => []
  | e :: rest => numbers e ++ listNumbers rest

/-- The numbers of an expression that may be missing. -/
def optionNumbers : Option Expr → List Float
  | none => []
  | some e => numbers e

end

/-- A number is read back from its numeral as a number that is equal to it. -/
def Kept (x : Float) : Prop :=
  ∃ y, Numeral.reread? x = some y ∧ (x == y) = true

mutual

/-- An expression is the same as the one with every number read from its numeral just if all its
numbers are kept. -/
theorem exists_reread_same_iff : ∀ e : Expr,
    (∃ e', reread? e = some e' ∧ same e e' = true) ↔ ∀ x ∈ numbers e, Kept x
  | aggregate op body param grouping without => by
    rw [reread?, numbers, List.forall_mem_append, ← exists_reread_same_iff body,
      ← exists_optionReread_same_iff param]
    exact exists_bind_bind_iff fun b p => by simp [same]
  | binary op lhs rhs returnBool matching => by
    rw [reread?, numbers, List.forall_mem_append, ← exists_reread_same_iff lhs,
      ← exists_reread_same_iff rhs]
    exact exists_bind_bind_iff fun l r => by simp [same]
  | call func args => by
    rw [reread?, numbers, ← exists_listReread_same_iff args]
    exact exists_bind_iff fun b => by simp [same]
  | subquery body range step offset => by
    rw [reread?, numbers, ← exists_reread_same_iff body]
    exact exists_bind_iff fun b => by simp [same]
  | paren body => by
    rw [reread?, numbers, ← exists_reread_same_iff body]
    exact exists_bind_iff fun b => by simp [same]
  | unary op body => by
    rw [reread?, numbers, ← exists_reread_same_iff body]
    exact exists_bind_iff fun b => by simp [same]
  | number value => by
    rw [reread?, numbers, List.forall_mem_singleton]
    exact exists_bind_iff fun b => by simp [same]
  | text value => iff_of_true ⟨text value, rfl, by simp [same]⟩ nofun
  | matrix body range => by
    rw [reread?, numbers, ← exists_reread_same_iff body]
    exact exists_bind_iff fun b => by simp [same]
  | vector s => iff_of_true ⟨vector s, rfl, by simp [same]⟩ nofun
  | extension kind args => by
    rw [reread?, numbers, ← exists_listReread_same_iff args]
    exact exists_bind_iff fun b => by simp [same]

/-- Expressions are the same as those with every number read from its numeral, one by one. -/
theorem exists_listReread_same_iff : ∀ es : List Expr,
    (∃ es', listReread? es = some es' ∧ listSame es es' = true) ↔
      ∀ x ∈ listNumbers es, Kept x
  | [] => iff_of_true ⟨[], rfl, rfl⟩ nofun
  | e :: rest => by
    rw [listReread?, listNumbers, List.forall_mem_append, ← exists_reread_same_iff e,
      ← exists_listReread_same_iff rest]
    exact exists_bind_bind_iff fun b p => by simp [listSame]

/-- An expression that may be missing is the same, or missing again. -/
theorem exists_optionReread_same_iff : ∀ e : Option Expr,
    (∃ e', optionReread? e = some e' ∧ optionSame e e' = true) ↔
      ∀ x ∈ optionNumbers e, Kept x
  | none => iff_of_true ⟨none, rfl, rfl⟩ nofun
  | some e => by
    rw [optionReread?, optionNumbers, ← exists_reread_same_iff e]
    exact exists_bind_iff fun b => by simp [optionSame]

end

end Expr

end SelectorGuard
