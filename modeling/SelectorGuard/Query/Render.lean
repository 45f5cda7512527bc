import SelectorGuard.Decimal.Numeral
import SelectorGuard.Query.Expr

/-!
# Query text

An expression is written as the query text that it stands for. Names that are not legal where they
stand are quoted, and a metric name that is not legal moves into the braces as a constraint on
`__name__`, so a name always stays one token. Matchers are written in their canonical form. The
offset of a selector stands behind its range. The kind of an extension node is written as it is.
-/

namespace SelectorGuard

/-- A name bare if it is a legal label name, quoted if not. -/
def nameChars (name : String) : List Char :=
  if Label.isName name then name.toList else Text.Quoted.encode name.toList

/-- Texts with a comma and a blank between them. -/
def commaSeparated : List (List Char) → List Char
  | [] => []
  | [cs] => cs
  | cs :: rest => cs ++ [',', ' '] ++ commaSeparated rest

/-- Label names in parentheses. -/
def labelListChars (labels : List String) : List Char :=
  '(' :: commaSeparated (labels.map nameChars) ++ [')']

/-- An offset, if there is one. -/
def offsetChars (offset : Option Duration) : List Char :=
  match offset with
  | none => []
  | some d => " offset ".toList ++ d.chars

namespace Selector

/-- A selector without its offset. -/
def bodyChars (s : Selector) : List Char :=
  match s.name with
  | none => '{' :: commaSeparated (s.matchers.map Matcher.chars) ++ ['}']
  | some name =>
    if Label.isMetricName name then
      if s.matchers.isEmpty then name.toList
      else name.toList ++ '{' :: commaSeparated (s.matchers.map Matcher.chars) ++ ['}']
    else
      '{' :: commaSeparated
        (("__name__=".toList ++ Text.Quoted.encode name.toList) :: s.matchers.map Matcher.chars)
        ++ ['}']

/-- The characters of a selector. -/
def chars (s : Selector) : List Char :=
  s.bodyChars ++ offsetChars s.offset

/-- The query text of a selector. -/
def render (s : Selector) : String :=
  String.ofList s.chars

end Selector

/-- A range in brackets. -/
def rangeChars (range : Duration) : List Char :=
  '[' :: range.chars ++ [']']

/-- The clause with the labels of an aggregation. -/
def groupingChars (grouping : List String) (without : Bool) : List Char :=
  if without then " without ".toList ++ labelListChars grouping ++ [' ']
  else if grouping.isEmpty then []
  else " by ".toList ++ labelListChars grouping ++ [' ']

/-- The clauses for the matching of the two sides of an operation. -/
def matchingChars (matching : Option VectorMatching) : List Char :=
  match matching with
  | none => []
  | some m =>
    (if m.on then " on ".toList ++ labelListChars m.labels
      else if m.labels.isEmpty then []
      else " ignoring ".toList ++ labelListChars m.labels) ++
    match m.card with
    | .manyToOne => " group_left ".toList ++ labelListChars m.includes
    | .oneToMany => " group_right ".toList ++ labelListChars m.includes
    | .oneToOne | .manyToMany => []

namespace Expr

mutual

/-- The characters of an expression. -/
def chars : Expr → List Char
  | aggregate op body param grouping without =>
    op.keyword.toList ++ groupingChars grouping without ++ '(' :: paramChars param ++
      chars body ++ [')']
  | binary op lhs rhs returnBool matching =>
    chars lhs ++ ' ' :: op.token.toList ++ (if returnBool then " bool".toList else []) ++
      matchingChars matching ++ ' ' :: chars rhs
  | call func args => nameChars func ++ '(' :: argsChars args ++ [')']
  | subquery body range step offset =>
    chars body ++ '[' :: range.chars ++ ':' :: (step.map Duration.chars).getD [] ++ ']' ::
      offsetChars offset
  | paren body => '(' :: chars body ++ [')']
  | unary op body => op.token.toList ++ chars body
  | number value => Decimal.queryChars value
  | text value => Text.Quoted.encode value.toList
  | matrix body range =>
    match body with
    | vector s => s.bodyChars ++ rangeChars range ++ offsetChars s.offset
    | _ => chars body ++ rangeChars range
  | vector s => s.chars
  | extension kind args => kind.toList ++ '(' :: argsChars args ++ [')']

/-- Arguments with commas and blanks between them. -/
def argsChars : List Expr → List Char
  | [] => []
  | [e] => chars e
  | e :: rest => chars e ++ ',' :: ' ' :: argsChars rest

/-- The parameter of an aggregation, with the comma and blank after it. -/
def paramChars : Option Expr → List Char
  | none => []
  | some e => chars e ++ [',', ' ']

end

/-- The query text of an expression. -/
def render (e : Expr) : String :=
  String.ofList e.chars

end Expr

end SelectorGuard
