import SelectorGuard.Proofs.Query.Tokens

/-!
# How operands are grouped

Query text has no parentheses but those that are nodes, so which operands an operator has is left to
how tightly the operators bind. A table of binding powers settles it: an operator goes on the
operand before it as long as it binds at least as tightly as the place demands. An expression is
grouped by a table when each of its nodes has the operands that the table gives it, as in every
expression that a parser with this table makes. Whatever the table is, such an expression is
determined by its text. Of other expressions the text tells the tokens and nothing more, and
different groupings share a text.
-/

namespace SelectorGuard

/-- How tightly operators bind. At a place that demands some power, an operator goes on the operand
before it if its left power is at least as great; what follows the operator demands its right power.
What follows a sign demands the power of signs. -/
structure Binding where
  /-- The power with which an operator binds the operand before it. -/
  left : BinaryOperator → Nat
  /-- The power that an operator demands of those after it. -/
  right : BinaryOperator → Nat
  /-- The power that a sign demands of the operators after it. -/
  sign : Nat

/-- How tightly an operator binds as a rule: powers before products, products before sums, then
comparisons, conjunctions and alternatives. -/
def BinaryOperator.rank : BinaryOperator → Nat
  | pow => 6
  | mul | div | mod | atan2 => 5
  | add | sub => 4
  | eql | neq | gtr | lss | gte | lte => 3
  | and | unlessMatched => 2
  | or => 1

/-- The usual table. Powers are grouped from the right and all other operators from the left, and a
sign binds like a product. -/
def Binding.usual : Binding where
  left op := 2 * op.rank
  right op := if op = .pow then 2 * op.rank else 2 * op.rank + 1
  sign := 11

namespace Expr

/-- The operator that a token is. -/
def Token.operator? : Token → Option BinaryOperator
  | operator op => some op
  | _ => none

variable (b : Binding)

/-- Every operator that is not in a group of its own at the left end has the power that the place
demands. -/
def Starts (demand : Nat) : Expr → Prop
  | binary op lhs _ _ _ => demand ≤ b.left op ∧ Starts demand lhs
  | _ => True

/-- At the right end no operator and no sign takes an operator of some power that follows. -/
def Yields (power : Nat) : Expr → Prop
  | binary op _ rhs _ _ => power < b.right op ∧ Yields power rhs
  | unary _ body => power < b.sign ∧ Yields power body
  | _ => True

/-- Every operator and every sign has the operands that the table gives it. -/
def Grouped : Expr → Prop
  | binary op lhs rhs _ _ =>
    Grouped lhs ∧ Yields b (b.left op) lhs ∧ Grouped rhs ∧ Starts b (b.right op) rhs
  | unary _ body => Grouped body ∧ Starts b b.sign body
  | paren body => Grouped body
  | _ => True

/-- An operator in front of the tokens that follow takes the whole expression as its operand. -/
def YieldsTo (e : Expr) (ts : List Token) : Prop :=
  ∀ op ∈ ts.head?.bind Token.operator?, Yields b (b.left op) e

/-- An operator in front of the tokens that follow has less power than is demanded. -/
def EndsDemand (demand : Nat) (ts : List Token) : Prop :=
  ∀ op ∈ ts.head?.bind Token.operator?, b.left op < demand

variable {b}

/-- Nothing follows that could take a part of an expression. -/
theorem yieldsTo_nil (e : Expr) : YieldsTo b e [] :=
  nofun

/-- Nothing follows that could have the power that is demanded. -/
theorem endsDemand_nil (demand : Nat) : EndsDemand b demand [] :=
  nofun

/-- Where no power is demanded, every expression can stand. -/
theorem starts_zero : ∀ e : Expr, Starts b 0 e
  | binary _ lhs _ _ _ => ⟨Nat.zero_le _, starts_zero lhs⟩
  | aggregate .. | call .. | subquery .. | paren _ | unary .. | number _ | text _ | matrix ..
  | vector _ | extension .. => trivial

/-- An operand grows by operators after it, each with the power that the place demands, and by the
operands that they demand; the tokens of what is added are listed. -/
inductive Grows (b : Binding) (demand : Nat) : Expr → Expr → List Token → Prop
  /-- Nothing is added. -/
  | refl (e : Expr) : Grows b demand e e []
  /-- An operator and its right operand are added, and then the rest. -/
  | step {lhs rhs e : Expr} (op : BinaryOperator) {ts : List Token} :
      demand ≤ b.left op → Yields b (b.left op) lhs → Operation rhs → Grouped b rhs →
      Starts b (b.right op) rhs → Grows b demand (binary op lhs rhs false none) e ts →
      Grows b demand lhs e (.operator op :: (rhs.tokens ++ ts))

/-- An operator can be added last. -/
theorem Grows.concat {demand : Nat} {first lhs rhs : Expr} {ts : List Token} (op : BinaryOperator)
    (grows : Grows b demand first lhs ts) (due : demand ≤ b.left op)
    (yields : Yields b (b.left op) lhs) (operation : Operation rhs) (grouped : Grouped b rhs)
    (starts : Starts b (b.right op) rhs) :
    Grows b demand first (binary op lhs rhs false none) (ts ++ .operator op :: rhs.tokens) := by
  induction grows with
  | refl e =>
    have last := Grows.step op due yields operation grouped starts (.refl _)
    rwa [List.append_nil] at last
  | step op' due' yields' operation' grouped' starts' _ ih =>
    rw [List.cons_append, List.append_assoc]
    exact .step op' due' yields' operation' grouped' starts' (ih yields)

/-- An operand that is no operation itself: a selector, a sign with its operand, or parentheses. -/
def IsOperand : Expr → Prop
  | binary .. => False
  | _ => True

/-- A grouped operation grows from the operand at its left end. -/
theorem Operation.grows {e : Expr} (h : Operation e) {demand : Nat} (grouped : Grouped b e)
    (starts : Starts b demand e) :
    ∃ first ts, IsOperand first ∧ Operation first ∧ Grouped b first ∧ Grows b demand first e ts ∧
      e.tokens = first.tokens ++ ts := by
  induction h with
  | binary op left right ih _ =>
    obtain ⟨groupedLeft, yields, groupedRight, startsRight⟩ := grouped
    obtain ⟨first, ts, operand, operation, groupedFirst, grows, tokens_eq⟩ :=
      ih groupedLeft starts.2
    refine ⟨first, _, operand, operation, groupedFirst,
      grows.concat op starts.1 yields right groupedRight startsRight, ?_⟩
    rw [tokens, tokens_eq, List.append_assoc]
  | vector legal unshifted =>
    exact ⟨Expr.vector _, [], trivial, .vector legal unshifted, grouped, .refl _,
      (List.append_nil _).symm⟩
  | paren operation _ =>
    exact ⟨Expr.paren _, [], trivial, .paren operation, grouped, .refl _, (List.append_nil _).symm⟩
  | unary op operation _ =>
    exact ⟨Expr.unary op _, [], trivial, .unary op operation, grouped, .refl _,
      (List.append_nil _).symm⟩

/-- If no operator takes only a part of what an operand has grown to, none takes only a part of the
operand. -/
theorem Grows.yieldsTo {demand : Nat} {first e : Expr} {ts rest : List Token}
    (grows : Grows b demand first e ts) (yields : YieldsTo b e rest) :
    YieldsTo b first (ts ++ rest) := by
  cases grows with
  | refl => exact yields
  | step op _ yieldsFirst _ _ _ _ =>
    intro o ho
    obtain rfl : op = o := Option.some.inj ho
    exact yieldsFirst

/-- Grouped operations with less than `n` tokens, those that follow included, are determined by
their tokens. -/
def Determined (b : Binding) (n : Nat) : Prop :=
  ∀ ⦃e e' : Expr⦄ ⦃demand : Nat⦄ ⦃ts us : List Token⦄, Operation e → Operation e' →
    Grouped b e → Grouped b e' → Starts b demand e → Starts b demand e' →
    YieldsTo b e ts → YieldsTo b e' us → EndsDemand b demand ts → EndsDemand b demand us →
    (e.tokens ++ ts).length < n → e.tokens ++ ts = e'.tokens ++ us → e = e' ∧ ts = us

section

variable {n : Nat} {first first' e e' : Expr} {demand : Nat} {ts us tail rest : List Token}

/-- Operands with one token more are determined by their tokens. -/
theorem Determined.operand (smaller : Determined b n) (operand : IsOperand first)
    (operand' : IsOperand first') (operation : Operation first) (operation' : Operation first')
    (grouped : Grouped b first) (grouped' : Grouped b first') (yields : YieldsTo b first ts)
    (yields' : YieldsTo b first' us) (short : (first.tokens ++ ts).length < n + 1)
    (h : first.tokens ++ ts = first'.tokens ++ us) : first = first' ∧ ts = us := by
  have closed {body : Expr} (more : List Token) : YieldsTo b body (.closing :: more) := nofun
  have lowest (more : List Token) : EndsDemand b 0 (.closing :: more) := nofun
  cases operation with
  | binary => cases operand
  | vector _ _ =>
    cases operation' with
    | binary => cases operand'
    | vector _ _ =>
      obtain ⟨same, tails⟩ := List.cons.inj h
      rw [Token.selector.inj same]
      exact ⟨rfl, tails⟩
    | paren _ => cases (List.cons.inj h).1
    | unary _ _ => cases (List.cons.inj h).1
  | paren inner =>
    cases operation' with
    | binary => cases operand'
    | vector _ _ => cases (List.cons.inj h).1
    | unary _ _ => cases (List.cons.inj h).1
    | paren inner' =>
      simp only [tokens, List.cons_append, List.append_assoc, List.nil_append, List.cons.injEq,
        true_and, List.length_cons] at h short
      obtain ⟨rfl, tails⟩ := smaller inner inner' grouped grouped' (starts_zero _)
        (starts_zero _)
        (closed ts) (closed us) (lowest ts) (lowest us) (by omega) h
      exact ⟨rfl, (List.cons.inj tails).2⟩
  | unary op inner =>
    cases operation' with
    | binary => cases operand'
    | vector _ _ => cases (List.cons.inj h).1
    | paren _ => cases (List.cons.inj h).1
    | unary op' inner' =>
      simp only [tokens, List.cons_append, List.cons.injEq, Token.sign.injEq, List.length_cons]
        at h short
      obtain ⟨rfl, same⟩ := h
      obtain ⟨rfl, tails⟩ := smaller inner inner' grouped.1 grouped'.1 grouped.2 grouped'.2
        (fun o ho => (yields o ho).2) (fun o ho => (yields' o ho).2)
        (fun o ho => (yields o ho).1) (fun o ho => (yields' o ho).1) (by omega) same
      exact ⟨rfl, tails⟩

/-- What an operand grows to is determined by the tokens that are added, if they are no more than
the tokens of a determined operation. -/
theorem Determined.grows (smaller : Determined b n) (grows : Grows b demand first e ts)
    (grows' : Grows b demand first e' us) (yields : YieldsTo b e tail)
    (yields' : YieldsTo b e' rest) (ends : EndsDemand b demand tail)
    (ends' : EndsDemand b demand rest)
    (short : (ts ++ tail).length < n + 1) (h : ts ++ tail = us ++ rest) : e = e' ∧ tail = rest := by
  induction grows generalizing us with
  | refl =>
    cases grows' with
    | refl => exact ⟨rfl, h⟩
    | step op due _ _ _ _ _ =>
      have less : b.left op < demand := ends op (by rw [show tail = _ from h]; rfl)
      omega
  | step op due _ operation grouped starts more ih =>
    cases grows' with
    | refl =>
      have less : b.left op < demand := ends' op (by rw [show rest = _ from h.symm]; rfl)
      omega
    | step op' _ _ operation' grouped' starts' more' =>
      simp only [List.cons_append, List.append_assoc, List.cons.injEq, Token.operator.injEq,
        List.length_cons] at h short
      obtain ⟨rfl, same⟩ := h
      have after := more.yieldsTo yields
      have after' := more'.yieldsTo yields'
      obtain ⟨rfl, tails⟩ := smaller operation operation' grouped grouped' starts starts'
        (fun o ho => (after o ho).2) (fun o ho => (after' o ho).2)
        (fun o ho => (after o ho).1) (fun o ho => (after' o ho).1) (by omega) same
      refine ih more' yields ?_ tails
      rw [List.length_append] at short
      omega

end

/-- Grouped operations are determined by their tokens, however many these are. The induction is on
the number of tokens: the operand at the left end comes first, then one operator after the other. -/
theorem determined (b : Binding) : ∀ n, Determined b n
  | 0 => by
    intro e e' demand ts us _ _ _ _ _ _ _ _ _ _ short
    exact absurd short (Nat.not_lt_zero _)
  | n + 1 => by
    intro e e' demand ts us operation operation' grouped grouped' starts starts' yields yields' ends
      ends' short h
    have smaller := determined b n
    obtain ⟨first, more, operand, operationFirst, groupedFirst, grows, written⟩ :=
      operation.grows grouped starts
    obtain ⟨first', more', operand', operationFirst', groupedFirst', grows', written'⟩ :=
      operation'.grows grouped' starts'
    rw [written, written', List.append_assoc, List.append_assoc] at h
    rw [written, List.append_assoc] at short
    obtain ⟨rfl, tails⟩ := smaller.operand operand operand' operationFirst operationFirst'
      groupedFirst groupedFirst' (grows.yieldsTo yields) (grows'.yieldsTo yields') short h
    refine smaller.grows grows grows' yields yields' ends ends' ?_ tails
    rw [List.length_append] at short
    omega

/-- The text of an operation on selectors, with any signs, operators and parentheses, determines its
tokens and nothing else. Two such expressions that are grouped by one table of binding powers,
whatever the table is, are equal if they have the same text. -/
theorem eq_of_render_eq_of_grouped {e e' : Expr} (he : Operation e) (he' : Operation e') :
    (e.render = e'.render ↔ e.tokens = e'.tokens) ∧
      ∀ b : Binding, Grouped b e → Grouped b e' → e.render = e'.render → e = e' := by
  refine ⟨he.render_eq_iff he', fun b grouped grouped' h => ?_⟩
  have same : e.tokens ++ [] = e'.tokens ++ [] := by rw [(he.render_eq_iff he').mp h]
  have whole := determined b _ he he' grouped grouped' (starts_zero e) (starts_zero e')
    (yieldsTo_nil e) (yieldsTo_nil e') (endsDemand_nil 0) (endsDemand_nil 0)
    (Nat.lt_succ_self _) same
  exact whole.1

/-- A metric without matchers. -/
def metric (name : String) : Expr :=
  .vector ⟨some name, [], none⟩

/-- A metric is an operation if its name is legal. -/
theorem operation_metric {name : String} (legal : Label.isMetricName name = true) :
    Operation (metric name) :=
  .vector (fun _ h => Option.some.inj h ▸ legal) rfl

/-- The sum of two operands. -/
def plus (lhs rhs : Expr) : Expr :=
  .binary .add lhs rhs false none

/-- The product of two operands. -/
def times (lhs rhs : Expr) : Expr :=
  .binary .mul lhs rhs false none

/-- A sum as a factor and a product as a summand have the same text, as they have the same tokens.
The usual table groups only the second one in this way. With parentheses around the sum it groups
the first one as well, and then the texts differ. -/
theorem eq_of_render_eq_of_grouped_by_usual_table :
    let factor := times (plus (metric "a") (metric "b")) (metric "c")
    let summand := plus (metric "a") (times (metric "b") (metric "c"))
    let enclosed := times (paren (plus (metric "a") (metric "b"))) (metric "c")
    factor.render = summand.render ∧ Grouped .usual summand ∧ Grouped .usual enclosed ∧
      enclosed.render ≠ summand.render := by
  intro factor summand enclosed
  have a : Operation (metric "a") := operation_metric (by decide)
  have b : Operation (metric "b") := operation_metric (by decide)
  have c : Operation (metric "c") := operation_metric (by decide)
  have one : Operation factor := .binary _ (.binary _ a b) c
  have other : Operation summand := .binary _ a (.binary _ b c)
  have third : Operation enclosed := .binary _ (.paren (.binary _ a b)) c
  have grouped : Grouped .usual summand := by simp [summand, plus, times, metric, Grouped, Yields,
    Starts, Binding.usual, BinaryOperator.rank]
  have grouped' : Grouped .usual enclosed := by simp [enclosed, plus, times, metric, Grouped,
    Yields, Starts]
  refine ⟨(eq_of_render_eq_of_grouped one other).1.mpr (by decide), grouped, grouped', fun h => ?_⟩
  have same := (eq_of_render_eq_of_grouped third other).2 .usual grouped' grouped h
  cases (Expr.binary.inj same).1

/-- Grouping is lost: two different operations on legal metric names, a sum as a factor and a
product as a summand, have the same text. -/
theorem render_loses_grouping :
    ¬ ∀ e e' : Expr, Operation e → Operation e' → e.render = e'.render → e = e' := by
  intro injective
  have a : Operation (metric "a") := operation_metric (by decide)
  have b : Operation (metric "b") := operation_metric (by decide)
  have c : Operation (metric "c") := operation_metric (by decide)
  have same := injective (times (plus (metric "a") (metric "b")) (metric "c"))
    (plus (metric "a") (times (metric "b") (metric "c"))) (.binary _ (.binary _ a b) c)
    (.binary _ a (.binary _ b c)) (by decide)
  cases (Expr.binary.inj same).1

end Expr

end SelectorGuard
