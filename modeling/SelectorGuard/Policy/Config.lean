import SelectorGuard.Matcher.Document
import SelectorGuard.Policy.Draft

/-!
# Policy configurations

A configuration is a JSON record with the strictness and a list of entries. An entry restricts a
label to values, restricts it to a pattern, or spells out a matcher; which of the three it is shows
in the names of its fields, or in their number and shape if it is an array. Records with other
fields are refused. A configuration becomes a policy by the same rules as a draft.
-/

namespace SelectorGuard

/-- An entry of a configuration. -/
inductive ConfigEntry where
  /-- The label takes one of several values. -/
  | values (label : String) (values : List String)
  /-- The value of the label is matched by a pattern. -/
  | regex (label pattern : String)
  /-- A matcher in its parts. -/
  | explicit (label : String) (kind : MatchKind) (value : String)
deriving DecidableEq, Repr

/-- A configuration. -/
structure PolicyConfig where
  /-- Refuse a query that constrains a label of the policy in another way. -/
  strict : Bool := false
  /-- The entries; later ones win over earlier ones for the same label. -/
  entries : List ConfigEntry := []
deriving DecidableEq, Repr

namespace ConfigEntry

/-- An entry with values, from a document. -/
def valuesOfJson? (j : Json) : Option ConfigEntry := do
  match ← j.fields? true ["label", "values"] with
  | [some label, some vs] => return .values (← label.string?) (← vs.strings?)
  | _ => none

/-- An entry with a pattern, from a document. -/
def regexOfJson? (j : Json) : Option ConfigEntry := do
  match ← j.fields? true ["label", "regex"] with
  | [some label, some pattern] => return .regex (← label.string?) (← pattern.string?)
  | _ => none

/-- An entry that spells out a matcher, from a document. -/
def explicitOfJson? (j : Json) : Option ConfigEntry := do
  match ← j.fields? true ["label", "op", "value"] with
  | [some label, some op, some value] =>
    return .explicit (← label.string?) (← MatchKind.ofJson? false op) (← value.string?)
  | _ => none

/-- The entry that a document gives: the first form that fits. -/
def ofJson? (j : Json) : Option ConfigEntry :=
  valuesOfJson? j <|> regexOfJson? j <|> explicitOfJson? j

/-- An entry as a document. -/
def toJson : ConfigEntry → Json
  | values label vs => .object [("label", .string label), ("values", .ofStrings vs)]
  | regex label pattern => .object [("label", .string label), ("regex", .string pattern)]
  | explicit label kind value =>
    .object [("label", .string label), ("op", .string kind.keyword), ("value", .string value)]

/-- The matcher of an entry. A pattern must not match the empty value, however it is given. -/
def toMatcher : ConfigEntry → Except PolicyError Matcher
  | values label vs => Matcher.oneOf label vs
  | regex label pattern => Matcher.matching label pattern
  | explicit label .regexMatch pattern => Matcher.matching label pattern
  | explicit label kind value => Matcher.makeRule kind label value

end ConfigEntry

namespace PolicyConfig

/-- The configuration that a document gives. -/
def ofJson? (j : Json) : Option PolicyConfig := do
  match ← j.fields? true ["strict", "matchers"] with
  | [strict, entries] =>
    let entriesOf : Json → Option (List ConfigEntry)
      | .array items => items.mapM ConfigEntry.ofJson?
      | _ => none
    return ⟨← Json.orDefault false Json.bool? strict, ← Json.orDefault [] entriesOf entries⟩
  | _ => none

/-- The configuration that a text gives. -/
def ofText (text : String) : Except PolicyError PolicyConfig :=
  match (Json.read? text).bind ofJson? with
  | some c => .ok c
  | none => .error (.config .unreadable)

/-- A configuration as a document. -/
def toJson (c : PolicyConfig) : Json :=
  .object [("strict", .bool c.strict), ("matchers", .array (c.entries.map ConfigEntry.toJson))]

/-- The policy of a configuration. There must be an entry, and every entry must be valid, also one
that a later entry replaces. -/
def toPolicy (c : PolicyConfig) : Except PolicyError Policy :=
  if c.entries.isEmpty then .error (.config .noMatchers)
  else (c.entries.mapM ConfigEntry.toMatcher).map (Policy.ofList c.strict)

end PolicyConfig

end SelectorGuard
