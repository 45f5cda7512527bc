import SelectorGuard.Proofs.Query.Frame
import SelectorGuard.Proofs.Query.Shape

/-!
# Texts cannot change the structure of a query

Two expressions of one shape are compared, with any texts in the same places. Their query texts show
the same brackets outside literals, these are properly nested, and neither text ends inside a
literal.
-/

namespace SelectorGuard

open Text (Scan Nested isBracket)
open Text.Scan (Quiet)

/-- Two texts that show the same brackets, properly nested, and that both end outside literals. -/
structure SameFrame (cs ds : List Char) : Prop where
  /-- The first text ends outside literals. -/
  left : Scan.outside.after cs = .outside
  /-- The second text ends outside literals. -/
  right : Scan.outside.after ds = .outside
  /-- They show the same brackets. -/
  brackets : Scan.outside.brackets cs = Scan.outside.brackets ds
  /-- The brackets are properly nested. -/
  nested : Nested (Scan.outside.brackets cs)

namespace SameFrame

variable {cs ds cs' ds' : List Char}

/-- Texts without brackets have the same frame. -/
theorem of_quiet (hc : Quiet cs) (hd : Quiet ds) : SameFrame cs ds where
  left := hc.1
  right := hd.1
  brackets := hc.2.trans hd.2.symm
  nested := hc.2 ▸ Nested.nil

/-- A text without brackets has its own frame. -/
theorem refl (h : Quiet cs) : SameFrame cs cs :=
  of_quiet h h

/-- Texts put together part by part have the same frame. -/
theorem append (first : SameFrame cs ds) (second : SameFrame cs' ds') :
    SameFrame (cs ++ cs') (ds ++ ds') where
  left := by rw [Scan.after_append, first.left, second.left]
  right := by rw [Scan.after_append, first.right, second.right]
  brackets := by
    rw [Scan.brackets_append, Scan.brackets_append, first.left, first.right, first.brackets,
      second.brackets]
  nested := by
    rw [Scan.brackets_append, first.left]
    exact first.nested.append second.nested

/-- Texts in brackets of one kind have the same frame. -/
theorem enclose {opening closing : Char} (ho : isBracket opening = true)
    (hc : isBracket closing = true)
    (wrap : ∀ {bs}, Nested bs → Nested (opening :: bs ++ [closing])) (h : SameFrame cs ds) :
    SameFrame (opening :: cs ++ [closing]) (opening :: ds ++ [closing]) where
  left := (Scan.enclosed ho hc h.left).1
  right := (Scan.enclosed ho hc h.right).1
  brackets := by
    rw [(Scan.enclosed ho hc h.left).2, (Scan.enclosed ho hc h.right).2, h.brackets]
  nested := by
    rw [(Scan.enclosed ho hc h.left).2]
    exact wrap h.nested

/-- Texts in parentheses have the same frame. -/
theorem round (h : SameFrame cs ds) : SameFrame ('(' :: cs ++ [')']) ('(' :: ds ++ [')']) :=
  enclose (by decide) (by decide) Nested.round h

/-- Texts in square brackets have the same frame. -/
theorem square (h : SameFrame cs ds) : SameFrame ('[' :: cs ++ [']']) ('[' :: ds ++ [']']) :=
  enclose (by decide) (by decide) Nested.square h

/-- Texts in braces have the same frame. -/
theorem curly (h : SameFrame cs ds) : SameFrame ('{' :: cs ++ ['}']) ('{' :: ds ++ ['}']) :=
  enclose (by decide) (by decide) Nested.curly h

end SameFrame

/-- Lists of label names have the same frame. -/
theorem sameFrame_labelListChars (labels other : List String) :
    SameFrame (labelListChars labels) (labelListChars other) := by
  obtain ⟨inner, quiet, eq⟩ := labelListChars_eq labels
  obtain ⟨inner', quiet', eq'⟩ := labelListChars_eq other
  rw [eq, eq']
  exact (SameFrame.of_quiet quiet quiet').round

/-- Clauses with as many labels have the same frame. -/
theorem sameFrame_groupingChars {grouping other : List String} (without : Bool)
    (h : grouping.length = other.length) :
    SameFrame (groupingChars grouping without) (groupingChars other without) := by
  have empty := isEmpty_eq_of_length_eq h
  have labels := sameFrame_labelListChars grouping other
  have blank : SameFrame [' '] [' '] := .refl (by decide)
  unfold groupingChars
  rw [empty]
  split
  · exact ((SameFrame.refl (by decide)).append labels).append blank
  split
  · exact .refl (by decide)
  · exact ((SameFrame.refl (by decide)).append labels).append blank

/-- Matchings of one shape have clauses with the same frame. -/
theorem sameFrame_matchingChars {m n : Option VectorMatching}
    (h : Option.Rel VectorMatching.Alike m n) :
    SameFrame (matchingChars m) (matchingChars n) := by
  cases h with
  | none => exact .refl (by decide)
  | @some m n h =>
    have empty := isEmpty_eq_of_length_eq h.labels
    have labels := sameFrame_labelListChars m.labels n.labels
    have includes := sameFrame_labelListChars m.includes n.includes
    unfold matchingChars
    dsimp only
    rw [h.on, h.card, empty]
    refine .append ?_ ?_
    · split
      · exact (SameFrame.refl (by decide)).append labels
      split
      · exact .refl (by decide)
      · exact (SameFrame.refl (by decide)).append labels
    · split
      · exact (SameFrame.refl (by decide)).append includes
      · exact (SameFrame.refl (by decide)).append includes
      · exact .refl (by decide)
      · exact .refl (by decide)

/-- Selectors that both have matchers have the same frame, whether they have a metric name, and
wherever it is written. -/
theorem Selector.sameFrame_bodyChars {s t : Selector} (hs : s.matchers ≠ [])
    (ht : t.matchers ≠ []) : SameFrame s.bodyChars t.bodyChars := by
  obtain ⟨front, first, quiet, parts, eq⟩ := bodyChars_eq hs
  obtain ⟨front', first', quiet', parts', eq'⟩ := bodyChars_eq ht
  rw [eq, eq']
  have inner := SameFrame.of_quiet (quiet_commaSeparated parts) (quiet_commaSeparated parts')
  exact (SameFrame.of_quiet quiet quiet').append inner.curly

/-- Offsets that are the same have the same frame. -/
theorem sameFrame_offsetChars (offset : Option Duration) :
    SameFrame (offsetChars offset) (offsetChars offset) :=
  .refl (quiet_offsetChars offset)

/-- Ranges have the same frame. -/
theorem sameFrame_rangeChars (range : Duration) :
    SameFrame (rangeChars range) (rangeChars range) :=
  (SameFrame.refl range.quiet_chars).square

/-- Selectors of one shape that have matchers. -/
structure Selector.AlikeFilled (s t : Selector) : Prop extends Selector.Alike s t where
  /-- The first one has matchers. -/
  left : s.matchers ≠ []

/-- Of two selectors with as many matchers the second one has matchers if the first one has. -/
theorem Selector.AlikeFilled.right {s t : Selector} (h : s.AlikeFilled t) : t.matchers ≠ [] := by
  have filled := List.length_pos_iff.mpr h.left
  rw [h.matchers] at filled
  exact List.length_pos_iff.mp filled

namespace Expr

mutual

/-- Expressions of one shape whose selectors have matchers are written with the same frame. The
induction follows the shape: a node adds its brackets and clauses to what its parts show. -/
theorem sameFrame_chars : ∀ {e e' : Expr}, Alike Selector.AlikeFilled e e' →
    SameFrame (chars e) (chars e')
  | _, _, .aggregate op without body param grouping => by
    have keyword := SameFrame.refl op.quiet_keyword
    have clause := sameFrame_groupingChars without grouping
    have inner := (sameFrame_paramChars param).append (sameFrame_chars body)
    rw [chars_aggregate, chars_aggregate]
    exact keyword.append (clause.append inner.round)
  | _, _, .binary op returnBool lhs rhs matching => by
    have operator := SameFrame.refl (quiet_operatorChars op returnBool)
    have blank : SameFrame [' '] [' '] := .refl (by decide)
    rw [chars_binary, chars_binary]
    exact (sameFrame_chars lhs).append (operator.append
      ((sameFrame_matchingChars matching).append (blank.append (sameFrame_chars rhs))))
  | _, _, .call func func' args => by
    have name := SameFrame.of_quiet (quiet_nameChars func) (quiet_nameChars func')
    rw [chars_call, chars_call]
    exact name.append (sameFrame_argsChars args).round
  | _, _, .subquery range step offset body => by
    have inside := SameFrame.refl (quiet_stepChars range step)
    rw [chars_subquery, chars_subquery]
    exact (sameFrame_chars body).append (inside.square.append (sameFrame_offsetChars offset))
  | _, _, .paren body => (sameFrame_chars body).round
  | _, _, .unary op body => (SameFrame.refl op.quiet_token).append (sameFrame_chars body)
  | _, _, .number value => .refl (Decimal.quiet_queryChars value)
  | _, _, .text _ _ => .of_quiet (Scan.quiet_encode _) (Scan.quiet_encode _)
  | _, _, .matrix range body => by
    have ranges := sameFrame_rangeChars range
    have bodies := sameFrame_chars body
    rcases body.selector_or_none with ⟨s, t, rfl, rfl, related⟩ | ⟨none, none'⟩
    · have offsets := sameFrame_offsetChars s.offset
      have same : chars (matrix (vector t) range) =
          t.bodyChars ++ rangeChars range ++ offsetChars s.offset := by
        rw [related.offset]
        rfl
      rw [same]
      exact ((Selector.sameFrame_bodyChars related.left related.right).append ranges).append offsets
    · rw [chars_matrix_of_selector?_eq_none none, chars_matrix_of_selector?_eq_none none']
      exact bodies.append ranges
  | _, _, .vector (s := s) (t := t) related => by
    have same : chars (vector t) = t.bodyChars ++ offsetChars s.offset := by
      rw [related.offset]
      rfl
    rw [same]
    exact (Selector.sameFrame_bodyChars related.left related.right).append
      (sameFrame_offsetChars s.offset)

/-- Arguments of the same shapes are written with the same frame. -/
theorem sameFrame_argsChars : ∀ {es es' : List Expr}, ListAlike Selector.AlikeFilled es es' →
    SameFrame (argsChars es) (argsChars es')
  | _, _, .nil => .refl (by decide)
  | _, _, .cons head .nil => sameFrame_chars head
  | _, _, .cons head (.cons next rest) => by
    have comma : SameFrame [',', ' '] [',', ' '] := .refl (by decide)
    exact (sameFrame_chars head).append (comma.append (sameFrame_argsChars (.cons next rest)))

/-- Parameters of the same shape are written with the same frame. -/
theorem sameFrame_paramChars : ∀ {e e' : Option Expr}, OptionAlike Selector.AlikeFilled e e' →
    SameFrame (paramChars e) (paramChars e')
  | _, _, .none => .refl (by decide)
  | _, _, .some param => (sameFrame_chars param).append (.refl (by decide))

end

/-- Two expressions without extension nodes that have the same shape, in which every selector has a
matcher, and that differ in nothing but their texts, are rendered with the same sequence of brackets
outside literals. The brackets are properly nested, and neither query text ends inside a literal.
Whether a selector has a metric name makes no difference. -/
theorem render_brackets_eq_of_alike {e e' : Expr} (h : Alike Selector.AlikeFilled e e') :
    Scan.outside.brackets e.render.toList = Scan.outside.brackets e'.render.toList ∧
      Nested (Scan.outside.brackets e.render.toList) ∧
      Scan.outside.after e.render.toList = .outside ∧
      Scan.outside.after e'.render.toList = .outside := by
  have frame := sameFrame_chars h
  rw [render, render, String.toList_ofList, String.toList_ofList]
  exact ⟨frame.brackets, frame.nested, frame.left, frame.right⟩

/-- The rate of a metric summed by a label, written with harmless texts and with texts that look like
brackets, quotes and another selector. -/
theorem render_brackets_of_hostile_texts :
    let job : Matcher := .equalTo "job" "api" (by decide)
    let escape : Matcher := .equalTo "job" "\"\x7d or up\x7b\\" (by decide)
    let query (label func : String) (name : Option String) (m : Matcher) : Expr :=
      .aggregate .sum (.call func [.matrix (.vector ⟨name, [m], none⟩) (.ofSeconds 300)]) none
        [label] false
    let tame := query "job" "rate" none job
    let hostile := query "a) (secret" "rate(\"" (some "secret\x7b\x7d or up") escape
    Alike Selector.AlikeFilled tame hostile ∧
      Scan.outside.brackets hostile.render.toList = Scan.outside.brackets tame.render.toList ∧
      Scan.outside.brackets tame.render.toList =
        ['(', ')', '(', '(', '{', '}', '[', ']', ')', ')'] := by
  intro job escape query tame hostile
  have alike : Alike Selector.AlikeFilled tame hostile :=
    .aggregate _ _ (.call _ _ (.cons (.matrix _ (.vector ⟨⟨rfl, rfl⟩, by simp⟩)) .nil)) .none rfl
  exact ⟨alike, (render_brackets_eq_of_alike alike).1.symm, by decide +kernel⟩

end Expr

end SelectorGuard
