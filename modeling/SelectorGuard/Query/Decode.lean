import SelectorGuard.Query.Encode

/-!
# Expressions from JSON documents

A node is a record with a tag that names its kind, at any place among the members of an object or
first in an array. The tag decides which fields the record has and what each of them holds. Fields
are looked at in the order in which they are written, and the first that cannot be accepted decides
what is reported: that a matcher cannot be made, or that the document is malformed. Below the root
a tag may also be given as the number of the kind.
-/

namespace SelectorGuard

/-- A duration from a record of seconds and nanoseconds, the latter of 32 bits. -/
def Duration.ofJson? (j : Json) : Option Duration := do
  match ← j.fields? true ["secs", "nanos"] with
  | [some secs, some nanos] =>
    let seconds ← secs.word?
    let nanoseconds ← nanos.word?
    if nanoseconds < 0x100000000 then ofParts? seconds nanoseconds else none
  | _ => none

/-- A vector matching from a record, all of whose fields may be missing. -/
def VectorMatching.ofJson? (j : Json) : Option VectorMatching := do
  match ← j.fields? false ["card", "on", "labels", "include"] with
  | [card, on, labels, includes] =>
    return ⟨← Json.orDefault .oneToOne (Json.choice? true Cardinality.keyword Cardinality.all) card,
      ← Json.orDefault false Json.bool? on, ← Json.orDefault [] Json.strings? labels,
      ← Json.orDefault [] Json.strings? includes⟩
  | _ => none

namespace Expr

/-- What a field of a node holds. -/
inductive Shape where
  | expr | exprs | text | texts | flag | number | duration | aggregator | binaryOperator
  | unaryOperator | matching | matchers
deriving DecidableEq, Repr

/-- The content of a field. -/
inductive Content where
  /-- The field is missing or null. -/
  | nothing
  /-- An expression. -/
  | expr (e : Expr)
  /-- Expressions. -/
  | exprs (es : List Expr)
  /-- A text. -/
  | text (s : String)
  /-- Texts. -/
  | texts (ss : List String)
  /-- A truth value. -/
  | flag (b : Bool)
  /-- A number. -/
  | number (x : Float)
  /-- A duration. -/
  | duration (d : Duration)
  /-- An aggregation. -/
  | aggregator (op : Aggregator)
  /-- A binary operator. -/
  | binaryOperator (op : BinaryOperator)
  /-- A unary operator. -/
  | unaryOperator (op : UnaryOperator)
  /-- A vector matching. -/
  | matching (v : VectorMatching)
  /-- Matchers. -/
  | matchers (ms : List Matcher)

/-- What happens when a field is not there. -/
inductive Presence where
  /-- The field must be there. -/
  | required
  /-- The field may be missing or null, and then there is nothing. -/
  | optional
  /-- The field may be missing, and then it has the plainest content of its shape. -/
  | defaulted
deriving DecidableEq, Repr

/-- A field of a node. -/
structure Field where
  /-- The name. -/
  name : String
  /-- What the field holds. -/
  shape : Shape
  /-- What happens when it is not there. -/
  presence : Presence := .required
deriving DecidableEq, Repr

/-- The fields of each kind of node, in order. -/
def Kind.fields : Kind → List Field
  | aggregate => [⟨"op", .aggregator, .required⟩, ⟨"expr", .expr, .required⟩,
      ⟨"param", .expr, .optional⟩, ⟨"grouping", .texts, .defaulted⟩,
      ⟨"without", .flag, .defaulted⟩]
  | binary => [⟨"op", .binaryOperator, .required⟩, ⟨"lhs", .expr, .required⟩,
      ⟨"rhs", .expr, .required⟩, ⟨"return_bool", .flag, .defaulted⟩,
      ⟨"matching", .matching, .optional⟩]
  | call => [⟨"func", .text, .required⟩, ⟨"args", .exprs, .defaulted⟩]
  | subquery => [⟨"expr", .expr, .required⟩, ⟨"range", .duration, .required⟩,
      ⟨"step", .duration, .optional⟩, ⟨"offset", .duration, .optional⟩]
  | paren => [⟨"expr", .expr, .required⟩]
  | unary => [⟨"op", .unaryOperator, .required⟩, ⟨"expr", .expr, .required⟩]
  | number => [⟨"value", .number, .required⟩]
  | text => [⟨"value", .text, .required⟩]
  | matrix => [⟨"vector_selector", .expr, .required⟩, ⟨"range", .duration, .required⟩]
  | vector => [⟨"name", .text, .optional⟩, ⟨"matchers", .matchers, .defaulted⟩,
      ⟨"offset", .duration, .optional⟩]
  | extension => [⟨"kind", .text, .required⟩, ⟨"args", .exprs, .defaulted⟩]

/-- The content of a field without expressions in it. -/
def Shape.leaf (shape : Shape) (j : Json) : Except DecodeFault Content :=
  match shape with
  | .expr | .exprs => .error .malformed
  | .text => (DecodeFault.require j.string?).map .text
  | .texts => (DecodeFault.require j.strings?).map .texts
  | .flag => (DecodeFault.require j.bool?).map .flag
  | .number => (DecodeFault.require j.float?).map .number
  | .duration => (DecodeFault.require (Duration.ofJson? j)).map .duration
  | .aggregator =>
    (DecodeFault.require (j.choice? true Aggregator.keyword Aggregator.all)).map .aggregator
  | .binaryOperator =>
    (DecodeFault.require (j.choice? true BinaryOperator.keyword BinaryOperator.all)).map
      .binaryOperator
  | .unaryOperator =>
    (DecodeFault.require (j.choice? true UnaryOperator.keyword UnaryOperator.all)).map
      .unaryOperator
  | .matching => (DecodeFault.require (VectorMatching.ofJson? j)).map .matching
  | .matchers =>
    match j with
    | .array items => (items.mapM (Matcher.ofJson true)).map .matchers
    | _ => .error .malformed

/-- The content of a field that is not there. -/
def Field.absent? (f : Field) : Option Content :=
  match f.presence, f.shape with
  | .optional, _ => some .nothing
  | .defaulted, .exprs => some (.exprs [])
  | .defaulted, .texts => some (.texts [])
  | .defaulted, .flag => some (.flag false)
  | .defaulted, .matchers => some (.matchers [])
  | _, _ => none

/-- The kind that a tag names. -/
def Kind.ofTag? (nested : Bool) : Json → Option Kind
  | .string s => all.find? fun k => k.keyword == s
  | .number n => if nested then n.toWord?.bind fun i => all[i]? else none
  | _ => none

/-- The kind that the members of an object name; there must be exactly one tag. -/
def Kind.ofMembers? (nested : Bool) (members : List (String × Json)) : Option Kind :=
  match members.filter fun m => m.1 == "type" with
  | [(_, tag)] => ofTag? nested tag
  | _ => none

namespace Content

/-- The expression of a field that may be empty. -/
def expr? : Content → Option (Option Expr)
  | nothing => some none
  | expr e => some (some e)
  | _ => none

/-- The text of a field that may be empty. -/
def text? : Content → Option (Option String)
  | nothing => some none
  | text s => some (some s)
  | _ => none

/-- The duration of a field that may be empty. -/
def duration? : Content → Option (Option Duration)
  | nothing => some none
  | duration d => some (some d)
  | _ => none

/-- The vector matching of a field that may be empty. -/
def matching? : Content → Option (Option VectorMatching)
  | nothing => some none
  | matching v => some (some v)
  | _ => none

end Content

/-- The node of a kind with the contents of its fields in order. -/
def assemble? : Kind → List Content → Option Expr
  | .aggregate, [.aggregator op, .expr body, param, .texts grouping, .flag without] =>
    param.expr?.map fun p => aggregate op body p grouping without
  | .binary, [.binaryOperator op, .expr lhs, .expr rhs, .flag returnBool, matching] =>
    matching.matching?.map fun v => binary op lhs rhs returnBool v
  | .call, [.text func, .exprs args] => some (call func args)
  | .subquery, [.expr body, .duration range, step, offset] =>
    step.duration?.bind fun s => offset.duration?.map fun o => subquery body range s o
  | .paren, [.expr body] => some (paren body)
  | .unary, [.unaryOperator op, .expr body] => some (unary op body)
  | .number, [.number value] => some (number value)
  | .text, [.text value] => some (text value)
  | .matrix, [.expr body, .duration range] => some (matrix body range)
  | .vector, [name, .matchers ms, offset] =>
    name.text?.bind fun n => offset.duration?.map fun o => vector ⟨n, ms, o⟩
  | .extension, [.text kind, .exprs args] => some (extension kind args)
  | _, _ => none

/-- The node of a kind with the contents of the fields that are there. -/
def finish (kind : Kind) (found : List (String × Content)) : Except DecodeFault Content :=
  DecodeFault.require do
    let contents ← kind.fields.mapM fun f => found.lookup f.name <|> f.absent?
    let e ← assemble? kind contents
    return .expr e

mutual

/-- The content of a field. -/
def content (nested : Bool) (shape : Shape) : Json → Except DecodeFault Content
  | .object members =>
    match shape with
    | .expr => do
      let kind ← DecodeFault.require (Kind.ofMembers? nested members)
      finish kind (← memberContents kind.fields [] members)
    | _ => shape.leaf (.object members)
  | .array items =>
    match shape with
    | .expr =>
      match items with
      | [] => .error .malformed
      | tag :: rest => do
        let kind ← DecodeFault.require (Kind.ofTag? nested tag)
        finish kind (← itemContents kind.fields rest)
    | .exprs => do return .exprs (← exprContents items)
    | _ => shape.leaf (.array items)
  | .null => shape.leaf .null
  | .bool b => shape.leaf (.bool b)
  | .number n => shape.leaf (.number n)
  | .string s => shape.leaf (.string s)

/-- The contents of the fields among the members of an object, in the order of the members. -/
def memberContents (fields : List Field) (seen : List String) :
    List (String × Json) → Except DecodeFault (List (String × Content))
  | [] => .ok []
  | (name, j) :: rest =>
    match fields.find? fun f => f.name == name with
    | none => memberContents fields seen rest
    | some f => do
      if seen.contains name then .error .malformed
      let c ← match f.presence, j with
        | .optional, .null => .ok .nothing
        | _, _ => content true f.shape j
      return (name, c) :: (← memberContents fields (name :: seen) rest)

/-- The contents of the fields that the items of an array give in order. -/
def itemContents : List Field → List Json → Except DecodeFault (List (String × Content))
  | _, [] => .ok []
  | [], _ :: _ => .error .malformed
  | f :: fields, j :: rest => do
    let c ← match f.presence, j with
      | .optional, .null => .ok .nothing
      | _, _ => content true f.shape j
    return (f.name, c) :: (← itemContents fields rest)

/-- The expressions that the items of an array give. -/
def exprContents : List Json → Except DecodeFault (List Expr)
  | [] => .ok []
  | j :: rest => do
    match ← content true .expr j with
    | .expr e => return e :: (← exprContents rest)
    | _ => .error .malformed

end

/-- The expression that a document gives. -/
def ofJson (j : Json) : Except DecodeFault Expr := do
  match ← content false .expr j with
  | .expr e => return e
  | _ => .error .malformed

/-- The expression that a text gives. What follows the document is looked at last. -/
def ofText (text : String) : Except DecodeFault Expr :=
  match Json.readPrefix text.toList with
  | none => .error .malformed
  | some (j, left) => do
    let e ← ofJson j
    if Json.isEnd left then return e else .error .malformed

/-- A document whose reading passes a check reads as an expression that passes it. -/
theorem exists_read_of_any (text : String) (check : Expr → Prop) [DecidablePred check]
    (h : ((ofText text).toOption.any fun e => decide (check e)) = true) :
    ∃ e, ofText text = .ok e ∧ check e := by
  cases read : ofText text with
  | error _ =>
    rw [read] at h
    cases h
  | ok e =>
    rw [read] at h
    exact ⟨e, rfl, of_decide_eq_true h⟩

end Expr

end SelectorGuard
