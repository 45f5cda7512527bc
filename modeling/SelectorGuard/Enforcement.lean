import SelectorGuard.Policy.Verdict
import SelectorGuard.Query.Root

/-!
# Enforcing a policy on an expression

The walk goes through the tree and replaces the matchers of every instant selector by the
reconciled ones. It stops at the first selector that contradicts the policy and at the first
extension node, for which there is no rule; what it has replaced until then stays replaced. Below a
range selector it goes on only to an instant selector.
-/

namespace SelectorGuard

/-- How a walk ends. -/
inductive Outcome where
  /-- It has gone through the whole tree. -/
  | done
  /-- It has stopped at a selector that contradicts the policy. -/
  | conflict (conflict : Conflict)
  /-- It has stopped at an extension node of some kind. -/
  | unhandled (kind : String)
deriving DecidableEq, Repr

/-- The message of a walk that has stopped. -/
def Outcome.message? : Outcome → Option String
  | done => none
  | conflict c => some c.message
  | unhandled kind => some ("unhandled node type extension(" ++ kind ++ ")")

/-- What a walk leaves behind. -/
structure Walked (α : Type) where
  /-- The tree as it is afterwards. -/
  result : α
  /-- How the walk has ended. -/
  outcome : Outcome

namespace Walked

/-- Put the result into a larger tree. -/
def map {α β : Type} (f : α → β) (w : Walked α) : Walked β :=
  ⟨f w.result, w.outcome⟩

end Walked

namespace Policy

/-- Enforce a policy on a selector. One that contradicts the policy stays as it is. -/
def enforceSelector (p : Policy) (s : Selector) : Walked Selector :=
  match p.reconcile s.matchers with
  | .ok ms => ⟨{ s with matchers := ms }, .done⟩
  | .error c => ⟨s, .conflict c⟩

mutual

/-- Enforce a policy on an expression. -/
def enforce (p : Policy) : Expr → Walked Expr
  | .aggregate op body param grouping without =>
    match enforce p body with
    | ⟨body', .done⟩ =>
      (enforceOption p param).map fun q => .aggregate op body' q grouping without
    | ⟨body', stopped⟩ => ⟨.aggregate op body' param grouping without, stopped⟩
  | .binary op lhs rhs returnBool matching =>
    match enforce p lhs with
    | ⟨lhs', .done⟩ => (enforce p rhs).map fun r => .binary op lhs' r returnBool matching
    | ⟨lhs', stopped⟩ => ⟨.binary op lhs' rhs returnBool matching, stopped⟩
  | .call func args => (enforceList p args).map (.call func)
  | .subquery body range step offset =>
    (enforce p body).map fun b => .subquery b range step offset
  | .paren body => (enforce p body).map .paren
  | .unary op body => (enforce p body).map (.unary op)
  | .number value => ⟨.number value, .done⟩
  | .text value => ⟨.text value, .done⟩
  | .matrix (.vector s) range =>
    (enforceSelector p s).map fun t => .matrix (.vector t) range
  | .matrix body range => ⟨.matrix body range, .done⟩
  | .vector s => (enforceSelector p s).map .vector
  | .extension kind args => ⟨.extension kind args, .unhandled kind⟩

/-- Enforce a policy on expressions one after the other. -/
def enforceList (p : Policy) : List Expr → Walked (List Expr)
  | [] => ⟨[], .done⟩
  | e :: rest =>
    match enforce p e with
    | ⟨e', .done⟩ => (enforceList p rest).map (e' :: ·)
    | ⟨e', stopped⟩ => ⟨e' :: rest, stopped⟩

/-- Enforce a policy on an expression that may be missing. -/
def enforceOption (p : Policy) : Option Expr → Walked (Option Expr)
  | none => ⟨none, .done⟩
  | some e => (enforce p e).map some

end

/-- Enforce a policy on the expression of a statement. -/
def enforceStatement (p : Policy) (s : Statement) : Walked Statement :=
  (p.enforce s.expr).map fun e => { s with expr := e }

/-- Enforce a policy on a root. -/
def enforceRoot (p : Policy) : Root → Walked Root
  | .statement s => (p.enforceStatement s).map .statement
  | .expressions es => (p.enforceList es).map .expressions
  | .expr e => (p.enforce e).map .expr

end Policy

end SelectorGuard
