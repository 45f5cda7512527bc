import SelectorGuard.Query.Decode
import SelectorGuard.Query.Instant
import SelectorGuard.Query.Render

/-!
# Evaluation statements

A statement says when an expression is evaluated: from a first instant to a last one in steps of an
interval, looking back a given time for samples. An instant query has one instant and no interval.
Statements are read from a record whose fields are looked at as they come, so a matcher that cannot
be made is reported even if the text after it is broken.
-/

namespace SelectorGuard

/-- An expression with the times at which it is evaluated. -/
structure Statement where
  /-- The expression. -/
  expr : Expr
  /-- The first instant. -/
  start : Instant
  /-- The last instant. -/
  finish : Instant
  /-- The time between evaluations. -/
  interval : Duration
  /-- How far back an instant selector looks for samples. -/
  lookback : Duration

namespace Statement

/-- The lookback of five minutes. -/
def defaultLookback : Duration := Duration.ofSeconds 300

/-- Evaluate an expression at one instant. -/
def instant (e : Expr) (time : Instant) : Statement :=
  ⟨e, time, time, Duration.zero, defaultLookback⟩

/-- Evaluate an expression in steps from one instant to another. -/
def range (e : Expr) (start finish : Instant) (interval : Duration) : Statement :=
  ⟨e, start, finish, interval, defaultLookback⟩

/-- The query text of a statement is that of its expression. -/
def render (s : Statement) : String :=
  s.expr.render

/-- The names of the fields in order. -/
def fieldNames : List String :=
  ["expr", "start", "end", "interval", "lookback_delta"]

/-- A statement as a document. -/
def toJson (s : Statement) : Json :=
  .object [("expr", s.expr.toJson), ("start", .string s.start.render),
    ("end", .string s.finish.render), ("interval", s.interval.toJson),
    ("lookback_delta", s.lookback.toJson)]

/-- The content of a field. -/
inductive Field where
  /-- The expression. -/
  | expr (e : Expr)
  /-- An instant. -/
  | instant (t : Instant)
  /-- A duration. -/
  | duration (d : Duration)

/-- Read a field by its name. -/
def readField (name : String) (j : Json) : Except DecodeFault Field :=
  match name with
  | "expr" => (Expr.ofJson j).map .expr
  | "start" | "end" => (DecodeFault.require (j.string?.bind Instant.ofText?)).map .instant
  | _ => (DecodeFault.require (Duration.ofJson? j)).map .duration

/-- Read fields in order; none may occur twice. -/
def readFields : List String → List (String × Json) → Except DecodeFault (List (String × Field))
  | _, [] => .ok []
  | seen, (name, j) :: rest => do
    if seen.contains name then .error .malformed
    let field ← readField name j
    return (name, field) :: (← readFields (name :: seen) rest)

/-- The statement with given fields, all of which must be there. -/
def ofFields? (fields : List (String × Field)) : Option Statement := do
  match ← fieldNames.mapM fun name => fields.lookup name with
  | [.expr e, .instant start, .instant finish, .duration interval, .duration lookback] =>
    return ⟨e, start, finish, interval, lookback⟩
  | _ => none

/-- The statement that a text gives. -/
def ofText (text : String) : Except DecodeFault Statement := do
  let stream := Json.streamRecord fieldNames text.toList
  let fields ← readFields [] stream.entries
  let left ← DecodeFault.require stream.left
  let s ← DecodeFault.require (ofFields? fields)
  if Json.isEnd left then return s else .error .malformed

end Statement

end SelectorGuard
