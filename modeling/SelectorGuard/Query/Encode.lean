import SelectorGuard.Matcher.Document
import SelectorGuard.Query.Expr

/-!
# Expressions as JSON documents

A node is written as an object whose first member, "type", names the kind; the fields follow in a
fixed order. A missing metric name, parameter, step, offset or matching is left out, all else is
written. Numbers that are not finite have no JSON form and are written as null.
-/

namespace SelectorGuard

/-- A duration as an object. -/
def Duration.toJson (d : Duration) : Json :=
  .object [("secs", .ofNat d.seconds.toNat), ("nanos", .ofNat d.nanos.val)]

/-- A vector matching as an object. -/
def VectorMatching.toJson (v : VectorMatching) : Json :=
  .object [("card", .string v.card.keyword), ("on", .bool v.on), ("labels", .ofStrings v.labels),
    ("include", .ofStrings v.includes)]

/-- A member for a value that may be missing. -/
def optionalMember (name : String) (value : Option Json) : List (String × Json) :=
  match value with
  | none => []
  | some j => [(name, j)]

namespace Expr

/-- A node as an object: the kind and the fields. -/
def node (kind : Kind) (fields : List (String × Json)) : Json :=
  .object (("type", .string kind.keyword) :: fields)

mutual

/-- An expression as a document. -/
def toJson : Expr → Json
  | aggregate op body param grouping without =>
    node .aggregate ([("op", .string op.keyword), ("expr", toJson body)] ++
      optionalMember "param" (optionToJson param) ++
      [("grouping", .ofStrings grouping), ("without", .bool without)])
  | binary op lhs rhs returnBool matching =>
    node .binary ([("op", .string op.keyword), ("lhs", toJson lhs), ("rhs", toJson rhs),
      ("return_bool", .bool returnBool)] ++
      optionalMember "matching" (matching.map VectorMatching.toJson))
  | call func args =>
    node .call [("func", .string func), ("args", .array (listToJson args))]
  | subquery body range step offset =>
    node .subquery ([("expr", toJson body), ("range", range.toJson)] ++
      optionalMember "step" (step.map Duration.toJson) ++
      optionalMember "offset" (offset.map Duration.toJson))
  | paren body => node .paren [("expr", toJson body)]
  | unary op body => node .unary [("op", .string op.keyword), ("expr", toJson body)]
  | number value => node .number [("value", .ofFloat value)]
  | text value => node .text [("value", .string value)]
  | matrix body range =>
    node .matrix [("vector_selector", toJson body), ("range", range.toJson)]
  | vector s =>
    node .vector (optionalMember "name" (s.name.map .string) ++
      [("matchers", .array (s.matchers.map Matcher.toJson))] ++
      optionalMember "offset" (s.offset.map Duration.toJson))
  | extension kind args =>
    node .extension [("kind", .string kind), ("args", .array (listToJson args))]

/-- Expressions as documents. -/
def listToJson : List Expr → List Json
  | [] => []
  | e :: rest => toJson e :: listToJson rest

/-- An expression that may be missing as a document that may be missing. -/
def optionToJson : Option Expr → Option Json
  | none => none
  | some e => some (toJson e)

end

end Expr

end SelectorGuard
