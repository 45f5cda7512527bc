import SelectorGuard.Matcher
import SelectorGuard.Query.Duration

/-!
# Query expressions

An expression is a tree of aggregations, operations, calls, subqueries and literals over selectors.
Only instant selectors carry matchers. A range selector wraps an expression that is an instant
selector in every tree that stands for a query; the type admits other trees, because trees come
from elsewhere. Extension nodes stand for kinds of which nothing is known.

Two expressions are the same when they are built alike and their numbers are equal as numbers, so
that no number differs from zero by its sign, and the value that is no number differs from itself.
-/

namespace SelectorGuard

/-- Aggregations. -/
inductive Aggregator where
  | sum | avg | count | min | max | group | stddev | stdvar | topk | bottomk | countValues
  | quantile | limitk | limitRatio
deriving DecidableEq, Repr, Inhabited

namespace Aggregator

/-- The keyword of an aggregation, in query text and elsewhere. -/
def keyword : Aggregator → String
  | sum => "sum"
  | avg => "avg"
  | count => "count"
  | min => "min"
  | max => "max"
  | group => "group"
  | stddev => "stddev"
  | stdvar => "stdvar"
  | topk => "topk"
  | bottomk => "bottomk"
  | countValues => "count_values"
  | quantile => "quantile"
  | limitk => "limitk"
  | limitRatio => "limit_ratio"

/-- All aggregations. -/
def all : List Aggregator :=
  [sum, avg, count, min, max, group, stddev, stdvar, topk, bottomk, countValues, quantile, limitk,
    limitRatio]

end Aggregator

/-- Binary operators. -/
inductive BinaryOperator where
  | add | sub | mul | div | mod | pow | atan2 | eql | neq | gtr | lss | gte | lte | and | or
  | unlessMatched
deriving DecidableEq, Repr, Inhabited

namespace BinaryOperator

/-- The keyword of an operator outside query text. -/
def keyword : BinaryOperator → String
  | add => "add"
  | sub => "sub"
  | mul => "mul"
  | div => "div"
  | mod => "mod"
  | pow => "pow"
  | atan2 => "atan2"
  | eql => "eql"
  | neq => "neq"
  | gtr => "gtr"
  | lss => "lss"
  | gte => "gte"
  | lte => "lte"
  | and => "and"
  | or => "or"
  | unlessMatched => "unless"

/-- The operator in query text. -/
def token : BinaryOperator → String
  | add => "+"
  | sub => "-"
  | mul => "*"
  | div => "/"
  | mod => "%"
  | pow => "^"
  | atan2 => "atan2"
  | eql => "=="
  | neq => "!="
  | gtr => ">"
  | lss => "<"
  | gte => ">="
  | lte => "<="
  | and => "and"
  | or => "or"
  | unlessMatched => "unless"

/-- Comparisons, which may return zero and one instead of filtering. -/
def isComparison : BinaryOperator → Bool
  | eql | neq | gtr | lss | gte | lte => true
  | _ => false

/-- All operators. -/
def all : List BinaryOperator :=
  [add, sub, mul, div, mod, pow, atan2, eql, neq, gtr, lss, gte, lte, and, or,
    unlessMatched]

end BinaryOperator

/-- Unary operators. -/
inductive UnaryOperator where
  | neg | pos
deriving DecidableEq, Repr, Inhabited

namespace UnaryOperator

/-- The keyword of an operator outside query text. -/
def keyword : UnaryOperator → String
  | neg => "neg"
  | pos => "pos"

/-- The operator in query text. -/
def token : UnaryOperator → String
  | neg => "-"
  | pos => "+"

/-- All operators. -/
def all : List UnaryOperator :=
  [neg, pos]

end UnaryOperator

/-- How many series of one side match how many of the other. -/
inductive Cardinality where
  | oneToOne | manyToOne | oneToMany | manyToMany
deriving DecidableEq, Repr, Inhabited

namespace Cardinality

/-- The keyword of a cardinality. -/
def keyword : Cardinality → String
  | oneToOne => "one_to_one"
  | manyToOne => "many_to_one"
  | oneToMany => "one_to_many"
  | manyToMany => "many_to_many"

/-- All cardinalities. -/
def all : List Cardinality :=
  [oneToOne, manyToOne, oneToMany, manyToMany]

end Cardinality

/-- How the series of the two sides of an operation are matched. -/
structure VectorMatching where
  /-- How many match how many. -/
  card : Cardinality := .oneToOne
  /-- Match on the labels, rather than on all others. -/
  on : Bool := false
  /-- The labels to match on or to ignore. -/
  labels : List String := []
  /-- Labels to take over from the side of one. -/
  includes : List String := []
deriving DecidableEq, Repr, Inhabited

/-- An instant selector: the only node with matchers. -/
structure Selector where
  /-- The metric name in front of the braces. -/
  name : Option String
  /-- The matchers inside the braces. -/
  matchers : List Matcher
  /-- How far back the selector is shifted. -/
  offset : Option Duration
deriving DecidableEq

/-- The matchers of a selector on one label, in order. -/
def Selector.matchersFor (s : Selector) (label : String) : List Matcher :=
  Matcher.onLabel label s.matchers

/-- A selector accepts a series when all its matchers accept the values of its labels. -/
def Selector.accepts (s : Selector) (value : String → String) : Bool :=
  s.matchers.all fun m => m.accepts (value m.name)

/-- A query expression. -/
inductive Expr where
  /-- An aggregation of an expression, with a parameter for those that take one, by the labels or
  without them. -/
  | aggregate (op : Aggregator) (body : Expr) (param : Option Expr) (grouping : List String)
      (without : Bool)
  /-- An operation on two expressions. -/
  | binary (op : BinaryOperator) (lhs rhs : Expr) (returnBool : Bool)
      (matching : Option VectorMatching)
  /-- A function call. -/
  | call (func : String) (args : List Expr)
  /-- An expression evaluated repeatedly over a range. -/
  | subquery (body : Expr) (range : Duration) (step offset : Option Duration)
  /-- An expression in parentheses. -/
  | paren (body : Expr)
  /-- A sign before an expression. -/
  | unary (op : UnaryOperator) (body : Expr)
  /-- A number. -/
  | number (value : Float)
  /-- A text. -/
  | text (value : String)
  /-- A range selector. -/
  | matrix (body : Expr) (range : Duration)
  /-- An instant selector. -/
  | vector (selector : Selector)
  /-- A node of a kind that is not known. -/
  | extension (kind : String) (args : List Expr)

namespace Expr

/-- The kinds of nodes. -/
inductive Kind where
  | aggregate | binary | call | subquery | paren | unary | number | text | matrix | vector
  | extension
deriving DecidableEq, Repr, Inhabited

namespace Kind

/-- The name of a kind, as messages and documents have it. -/
def keyword : Kind → String
  | aggregate => "aggregate"
  | binary => "binary"
  | call => "call"
  | subquery => "subquery"
  | paren => "paren"
  | unary => "unary"
  | number => "number_literal"
  | text => "string_literal"
  | matrix => "matrix_selector"
  | vector => "vector_selector"
  | extension => "extension"

/-- All kinds. -/
def all : List Kind :=
  [aggregate, binary, call, subquery, paren, unary, number, text, matrix, vector, extension]

end Kind

/-- The kind of the root. -/
def kind : Expr → Kind
  | aggregate .. => .aggregate
  | binary .. => .binary
  | call .. => .call
  | subquery .. => .subquery
  | paren .. => .paren
  | unary .. => .unary
  | number .. => .number
  | text .. => .text
  | matrix .. => .matrix
  | vector .. => .vector
  | extension .. => .extension

mutual

/-- All instant selectors in the tree, in depth-first order: an aggregation has its expression
before its parameter. Those below range selectors and extension nodes are among them. -/
def selectors : Expr → List Selector
  | aggregate _ body param _ _ => selectors body ++ optionSelectors param
  | binary _ lhs rhs _ _ => selectors lhs ++ selectors rhs
  | call _ args => listSelectors args
  | subquery body _ _ _ => selectors body
  | paren body => selectors body
  | unary _ body => selectors body
  | number _ => []
  | text _ => []
  | matrix body _ => selectors body
  | vector s => [s]
  | extension _ args => listSelectors args

/-- The selectors of expressions one after the other. -/
def listSelectors : List Expr → List Selector
  | [] => []
  | e :: rest => selectors e ++ listSelectors rest

/-- The selectors of an expression that may be missing. -/
def optionSelectors : Option Expr → List Selector
  | none => []
  | some e => selectors e

end

mutual

/-- Two expressions are the same, numbers being compared as numbers. -/
def same : Expr → Expr → Bool
  | aggregate op body param grouping without, aggregate op' body' param' grouping' without' =>
    op == op' && same body body' && optionSame param param' && grouping == grouping' &&
      without == without'
  | binary op lhs rhs returnBool matching, binary op' lhs' rhs' returnBool' matching' =>
    op == op' && same lhs lhs' && same rhs rhs' && returnBool == returnBool' &&
      matching == matching'
  | call func args, call func' args' => func == func' && listSame args args'
  | subquery body range step offset, subquery body' range' step' offset' =>
    same body body' && range == range' && step == step' && offset == offset'
  | paren body, paren body' => same body body'
  | unary op body, unary op' body' => op == op' && same body body'
  | number value, number value' => value == value'
  | text value, text value' => value == value'
  | matrix body range, matrix body' range' => same body body' && range == range'
  | vector s, vector s' => s == s'
  | extension kind args, extension kind' args' => kind == kind' && listSame args args'
  | _, _ => false

/-- Expressions are the same one by one. -/
def listSame : List Expr → List Expr → Bool
  | [], [] => true
  | e :: rest, e' :: rest' => same e e' && listSame rest rest'
  | _, _ => false

/-- Expressions that may be missing are the same. -/
def optionSame : Option Expr → Option Expr → Bool
  | none, none => true
  | some e, some e' => same e e'
  | _, _ => false

end

/-- The number of times given, in parentheses. -/
def parens : Nat → Expr → Expr
  | 0, e => e
  | n + 1, e => parens n (paren e)

/-- The number of times given, under a sign. -/
def signs (op : UnaryOperator) : Nat → Expr → Expr
  | 0, e => e
  | n + 1, e => signs op n (unary op e)

end Expr

end SelectorGuard
