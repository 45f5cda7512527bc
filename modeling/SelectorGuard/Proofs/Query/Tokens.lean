import SelectorGuard.Proofs.Query.Legible

/-!
# The tokens of operations

The query text of an operation is a sequence of signs, selectors, binary operators and parentheses.
An operand is due at its start and after every sign, operator and opening parenthesis, and an
operator or closing parenthesis after every operand. With this in mind the text can be cut into its
tokens in one way only, also where a metric is named like an operator. How the operands are grouped
is not written, unless by parentheses that are nodes of the expression.
-/

namespace SelectorGuard

namespace Expr

/-- A token in the query text of an operation. -/
inductive Token where
  /-- A sign before an operand. -/
  | sign (op : UnaryOperator)
  /-- An operator between two operands. -/
  | operator (op : BinaryOperator)
  /-- A parenthesis that opens an operand. -/
  | opening
  /-- A parenthesis that closes one. -/
  | closing
  /-- A selector. -/
  | selector (s : Selector)
deriving DecidableEq

/-- The characters of a token. Blanks stand around an operator. -/
def Token.chars : Token → List Char
  | sign op => op.token.toList
  | operator op => ' ' :: (op.token.toList ++ [' '])
  | opening => ['(']
  | closing => [')']
  | selector s => s.chars

/-- An operation on selectors: signs, parentheses and operators without modifiers over selectors
that are not shifted and whose metric names are legal. -/
inductive Operation : Expr → Prop
  | vector {s : Selector} : (∀ name ∈ s.name, Label.isMetricName name = true) → s.offset = none →
      Operation (vector s)
  | paren {body : Expr} : Operation body → Operation (paren body)
  | unary (op : UnaryOperator) {body : Expr} : Operation body → Operation (unary op body)
  | binary (op : BinaryOperator) {lhs rhs : Expr} : Operation lhs → Operation rhs →
      Operation (binary op lhs rhs false none)

/-- The tokens of an operation in the order of the text. -/
def tokens : Expr → List Token
  | binary op lhs rhs _ _ => tokens lhs ++ .operator op :: tokens rhs
  | paren body => .opening :: tokens body ++ [.closing]
  | unary op body => .sign op :: tokens body
  | vector s => [.selector s]
  | _ => []

/-- The text of an operation is that of its tokens. -/
theorem Operation.chars_eq {e : Expr} (h : Operation e) :
    chars e = e.tokens.flatMap Token.chars := by
  induction h with
  | vector legal unshifted => rw [chars, tokens, List.flatMap_singleton, Token.chars]
  | paren _ ih =>
    rw [chars, ih, tokens, List.flatMap_append, List.flatMap_cons, List.flatMap_singleton]
    rfl
  | unary op _ ih =>
    rw [chars, ih, tokens, List.flatMap_cons]
    rfl
  | binary op _ _ left right =>
    rw [chars_binary, left, right, tokens, List.flatMap_append, List.flatMap_cons]
    simp [operatorChars, matchingChars, Token.chars]

/-! ### Cutting a text into tokens -/

/-- Tokens that can follow each other, where an operand is due or not. -/
inductive Alternate : Bool → List Token → Prop
  | sign (op : UnaryOperator) {ts : List Token} :
    Alternate true ts → Alternate true (.sign op :: ts)
  | opening {ts : List Token} : Alternate true ts → Alternate true (.opening :: ts)
  | selector {s : Selector} {ts : List Token} :
      (∀ name ∈ s.name, Label.isMetricName name = true) → s.offset = none → Alternate false ts →
      Alternate true (.selector s :: ts)
  | operator (op : BinaryOperator) {ts : List Token} : Alternate true ts →
      Alternate false (.operator op :: ts)
  | closing {ts : List Token} : Alternate false ts → Alternate false (.closing :: ts)
  | nil : Alternate false []

/-- The tokens of an operation stand where an operand is due, and then none is due. -/
theorem Operation.alternate {e : Expr} (h : Operation e) {ts : List Token}
    (after : Alternate false ts) : Alternate true (e.tokens ++ ts) := by
  induction h generalizing ts with
  | vector legal unshifted => exact .selector legal unshifted after
  | paren _ ih =>
    simp only [tokens, List.cons_append, List.append_assoc, List.nil_append]
    exact .opening (ih (.closing after))
  | unary op _ ih => exact .sign op (ih after)
  | binary op _ _ left right =>
    rw [tokens, List.append_assoc]
    exact left (.operator op (right after))

end Expr

/-! ### Selectors with any number of matchers -/

/-- A text that neither goes on a name nor opens braces behind it. -/
structure EndsSelector (cs : List Char) : Prop where
  /-- It does not go on a name. -/
  name : EndsName cs
  /-- It does not open braces. -/
  braces : cs.head? ≠ some '{'

variable {tail rest : List Char}

/-- Matchers in braces, which are left out without matchers, and a continuation without braces are
determined by their text, however many matchers there are. -/
theorem bracesChars_append_inj_of_head_ne {ms ns : List Matcher} (ht : tail.head? ≠ some '{')
    (hr : rest.head? ≠ some '{') (h : bracesChars ms ++ tail = bracesChars ns ++ rest) :
    ms = ns ∧ tail = rest := by
  cases ms with
  | nil =>
    cases ns with
    | nil => exact ⟨rfl, h⟩
    | cons n ns => exact absurd (congrArg List.head? h) ht
  | cons m ms =>
    cases ns with
    | nil => exact absurd (congrArg List.head? h).symm hr
    | cons n ns => exact bracesChars_append_inj rfl h

/-- A text that starts with a selector differs from every text that starts neither with a character
of names nor with a brace. -/
theorem Selector.append_ne {s : Selector} (hs : ∀ name ∈ s.name, Label.isMetricName name = true)
    {d : Char} (hd : Label.isMetricRest d = false) (hb : '{' ≠ d) :
    s.chars ++ tail ≠ d :: rest := by
  obtain ⟨name, ms, offset⟩ := s
  rw [chars, List.append_assoc]
  cases name with
  | none => exact fun h => hb (List.cons.inj h).1
  | some name =>
    rw [bodyChars_of_isMetricName rfl (hs name rfl), List.append_assoc]
    exact Label.append_ne_of_isMetricName (hs name rfl) hd

/-- A selector that is not shifted has nothing behind its body. -/
theorem Selector.chars_of_offset_eq_none {s : Selector} (h : s.offset = none) :
    s.chars = s.bodyChars := by
  rw [chars, h]
  exact List.append_nil s.bodyChars

/-- A selector that is not shifted, with a legal metric name or with none, and the continuation are
determined by their text. -/
theorem Selector.chars_append_inj {s t : Selector}
    (hs : ∀ name ∈ s.name, Label.isMetricName name = true) (unshifted : s.offset = none)
    (ht : ∀ name ∈ t.name, Label.isMetricName name = true) (unshifted' : t.offset = none)
    (tail_ends : EndsSelector tail) (rest_ends : EndsSelector rest)
    (h : s.chars ++ tail = t.chars ++ rest) : s = t ∧ tail = rest := by
  rw [chars_of_offset_eq_none unshifted, chars_of_offset_eq_none unshifted'] at h
  obtain ⟨same, tails⟩ := bodyChars_append_inj tail_ends.name rest_ends.name
    (bracesChars_append_inj_of_head_ne tail_ends.braces rest_ends.braces) h
  -- A legal name stands in front of the braces, so it cannot be there in one of the two only.
  have named : s.name.isSome = t.name.isSome := by
    cases hn : s.name with
    | none =>
      cases hn' : t.name with
      | none => rfl
      | some other =>
        exact absurd h.symm (bodyChars_append_ne hn' (ht other hn') (by simp [hn]))
    | some name =>
      cases hn' : t.name with
      | none => exact absurd h (bodyChars_append_ne hn (hs name hn) (by simp [hn']))
      | some other => rfl
  exact ⟨eq_of_constraints_eq named (unshifted.trans unshifted'.symm) same, tails⟩

/-! ### The tokens of a text -/

/-- A binary operator up to the blank behind it, and what follows, are determined by their text. -/
theorem BinaryOperator.token_append_inj {op other : BinaryOperator}
    (h : op.token.toList ++ ' ' :: tail = other.token.toList ++ ' ' :: rest) :
    op = other ∧ tail = rest := by
  have filled (o : BinaryOperator) : ∀ c ∈ o.token.toList, (c != ' ') = true :=
    List.all_eq_true.mp (by cases o <;> rfl)
  have blank (cs : List Char) : (' ' :: cs).takeWhile (· != ' ') = [] := rfl
  obtain ⟨tokens, tails⟩ := run_append_inj (filled op) (filled other) (blank tail) (blank rest) h
  have distinct : ∀ o ∈ all, ∀ o' ∈ all, o.token.toList = o'.token.toList → o = o' := by decide
  have listed (o : BinaryOperator) : o ∈ all := by cases o <;> decide
  exact ⟨distinct op (listed op) other (listed other) tokens, (List.cons.inj tails).2⟩

namespace Expr

/-- Where no operand is due, what the tokens spell ends a selector. -/
theorem Alternate.endsSelector {ts : List Token} (h : Alternate false ts) :
    EndsSelector (ts.flatMap Token.chars) := by
  cases h with
  | operator op _ => exact ⟨endsName_cons (by decide) _, nofun⟩
  | closing _ => exact ⟨endsName_cons (by decide) _, nofun⟩
  | nil => exact ⟨rfl, nofun⟩

/-- A text can be cut into tokens that follow each other in one way at most. What is due decides
which tokens can come next, and these differ in their first character. -/
theorem Alternate.flatMap_inj {operand : Bool} {ts us : List Token} (ht : Alternate operand ts)
    (hu : Alternate operand us) (h : ts.flatMap Token.chars = us.flatMap Token.chars) :
    ts = us := by
  induction ht generalizing us with
  | sign op _ ih =>
    cases hu with
    | sign op' after =>
      cases op <;> cases op' <;>
        first | exact congrArg _ (ih after (List.cons.inj h).2) | cases (List.cons.inj h).1
    | opening _ => cases op <;> cases (List.cons.inj h).1
    | selector legal _ _ =>
      rw [List.flatMap_cons, List.flatMap_cons] at h
      cases op <;> exact absurd h.symm (Selector.append_ne legal (by decide) (by decide))
  | opening _ ih =>
    cases hu with
    | sign op _ => cases op <;> cases (List.cons.inj h).1
    | opening after => exact congrArg _ (ih after (List.cons.inj h).2)
    | selector legal _ _ => exact absurd h.symm (Selector.append_ne legal (by decide) (by decide))
  | selector legal unshifted before ih =>
    cases hu with
    | sign op _ =>
      rw [List.flatMap_cons, List.flatMap_cons] at h
      cases op <;> exact absurd h (Selector.append_ne legal (by decide) (by decide))
    | opening _ => exact absurd h (Selector.append_ne legal (by decide) (by decide))
    | selector legal' unshifted' after =>
      obtain ⟨rfl, tails⟩ := Selector.chars_append_inj legal unshifted legal' unshifted'
        before.endsSelector after.endsSelector h
      rw [ih after tails]
  | operator op _ ih =>
    cases hu with
    | operator op' after =>
      simp only [List.flatMap_cons, Token.chars, List.cons_append, List.append_assoc,
        List.nil_append, List.cons.injEq, true_and] at h
      obtain ⟨rfl, tails⟩ := BinaryOperator.token_append_inj h
      rw [ih after tails]
    | closing _ => cases (List.cons.inj h).1
    | nil => cases h
  | closing _ ih =>
    cases hu with
    | operator op _ => cases (List.cons.inj h).1
    | closing after => exact congrArg _ (ih after (List.cons.inj h).2)
    | nil => cases h
  | nil =>
    cases hu with
    | operator op _ => cases h
    | closing _ => cases h
    | nil => rfl

/-- Two operations have the same text just if they have the same tokens in the same order. -/
theorem Operation.render_eq_iff {e e' : Expr} (he : Operation e) (he' : Operation e') :
    e.render = e'.render ↔ e.tokens = e'.tokens := by
  have cut {o : Expr} (ho : Operation o) : Alternate true o.tokens :=
    List.append_nil o.tokens ▸ ho.alternate .nil
  constructor
  · intro h
    have texts := String.ofList_injective h
    rw [he.chars_eq, he'.chars_eq] at texts
    exact (cut he).flatMap_inj (cut he') texts
  · intro h
    rw [render, render, he.chars_eq, he'.chars_eq, h]

end Expr

end SelectorGuard
