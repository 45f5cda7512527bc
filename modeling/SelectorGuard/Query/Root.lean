import SelectorGuard.Query.Statement

/-!
# Roots of queries

A query comes as an evaluation statement, as a single expression, or as several expressions that
belong together.
-/

namespace SelectorGuard

/-- What a query is rooted in. -/
inductive Root where
  /-- An evaluation statement. -/
  | statement (s : Statement)
  /-- Expressions one after the other, such as the selectors of a request for series. -/
  | expressions (es : List Expr)
  /-- A single expression. -/
  | expr (e : Expr)

/-- All instant selectors of a root, in depth-first order. -/
def Root.selectors : Root → List Selector
  | statement s => s.expr.selectors
  | expressions es => Expr.listSelectors es
  | expr e => e.selectors

end SelectorGuard
