import SelectorGuard.Json.Record
import SelectorGuard.Matcher

/-!
# Matchers in JSON documents

A matcher is a record of a label name, the keyword of a comparison and an operand. Reading one
judges its parts as making one does, so every matcher that has been read is valid. A document with
matchers in it can be refused for two reasons: it is malformed, or a matcher in it cannot be made.
-/

namespace SelectorGuard

/-- Why a document is refused. -/
inductive DecodeFault where
  /-- The text is no document of the kind that is read. -/
  | malformed
  /-- A matcher in it cannot be made. -/
  | matcher (error : MatcherError)
deriving DecidableEq, Repr

/-- The message of a fault. What is malformed is not told. -/
def DecodeFault.message : DecodeFault → String
  | malformed => "<json>"
  | matcher e => e.message

/-- Something that must be there. -/
def DecodeFault.require {α : Type} : Option α → Except DecodeFault α
  | none => .error .malformed
  | some a => .ok a

/-- A matcher as an object. -/
def Matcher.toJson (m : Matcher) : Json :=
  .object [("name", .string m.name), ("op", .string m.kind.keyword), ("value", .string m.value)]

/-- The kind of a comparison from its keyword. -/
def MatchKind.ofJson? (allowEmpty : Bool) (j : Json) : Option MatchKind :=
  j.choice? allowEmpty MatchKind.keyword MatchKind.all

/-- The parts of a matcher from a record. -/
def Matcher.parts? (allowEmpty : Bool) (j : Json) : Option (MatchKind × String × String) := do
  match ← j.fields? false ["name", "op", "value"] with
  | [some name, some op, some value] =>
    return (← MatchKind.ofJson? allowEmpty op, ← name.string?, ← value.string?)
  | _ => none

/-- A matcher from a record. -/
def Matcher.ofJson (allowEmpty : Bool) (j : Json) : Except DecodeFault Matcher := do
  let (kind, name, value) ← DecodeFault.require (Matcher.parts? allowEmpty j)
  (Matcher.make kind name value).mapError .matcher

/-- The matcher that a text gives. Its parts are judged when all of them have been read, but before
what follows them. -/
def Matcher.ofText (text : String) : Except DecodeFault Matcher := do
  let names := ["name", "op", "value"]
  let stream := Json.streamRecord names text.toList
  let left ← DecodeFault.require stream.left
  let m ← Matcher.ofJson false (.object stream.entries)
  if Json.isEnd left then return m else .error .malformed

end SelectorGuard
