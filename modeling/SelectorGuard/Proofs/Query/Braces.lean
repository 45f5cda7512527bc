import SelectorGuard.Proofs.Query.Census
import SelectorGuard.Proofs.Query.Frame

/-!
# The braces of query text

Selectors are the only nodes that are written with braces. So a scanner meets one opening brace for
each selector that has matchers, and what stands between the braces is what this selector put there.
-/

namespace SelectorGuard

open Text (Scan isBracket)
open Text.Scan (Quiet)

/-- Wherever an opening brace stands outside literals, the next bracket outside literals closes it,
and the text between the two has a property. -/
def BraceGroups (P : List Char → Prop) (cs : List Char) : Prop :=
  ∀ before rest, cs = before ++ '{' :: rest → Scan.outside.after before = .outside →
    ∃ body behind, rest = body ++ '}' :: behind ∧ Quiet body ∧ P body

/-- A text that ends outside literals and holds a number of brace groups with a property. -/
structure Braced (P : List Char → Prop) (n : Nat) (cs : List Char) : Prop where
  /-- The text ends outside literals. -/
  closed : Scan.outside.after cs = .outside
  /-- So many braces are opened. -/
  count : (Scan.outside.brackets cs).count '{' = n
  /-- Every brace group has the property. -/
  groups : BraceGroups P cs

namespace Braced

variable {P : List Char → Prop} {n k : Nat} {cs ds : List Char}

/-- A brace that stands outside literals is among the brackets of a text. -/
theorem mem_brackets {before rest : List Char} (h : Scan.outside.after before = .outside) :
    '{' ∈ Scan.outside.brackets (before ++ '{' :: rest) := by
  rw [Scan.brackets_append, h, Scan.brackets, if_pos ⟨rfl, by decide⟩]
  exact List.mem_append_right _ List.mem_cons_self

/-- A text without opening braces has no groups. -/
theorem of_not_mem (closed : Scan.outside.after cs = .outside)
    (h : '{' ∉ Scan.outside.brackets cs) : Braced P 0 cs where
  closed := closed
  count := List.count_eq_zero.mpr h
  groups := by
    rintro before rest rfl start
    exact absurd (mem_brackets start) h

/-- A text without brackets has no groups. -/
theorem of_quiet (h : Quiet cs) : Braced P 0 cs :=
  of_not_mem h.1 (h.2 ▸ List.not_mem_nil)

/-- Texts one after the other have the groups of both. -/
theorem append (first : Braced P n cs) (second : Braced P k ds) : Braced P (n + k) (cs ++ ds) where
  closed := by rw [Scan.after_append, first.closed, second.closed]
  count := by
    rw [Scan.brackets_append, first.closed, List.count_append, first.count, second.count]
  groups := by
    intro before rest split start
    rcases List.append_eq_append_iff.mp split with ⟨more, rfl, rfl⟩ | ⟨more, rfl, eq⟩
    · -- The brace stands in the second text.
      rw [Scan.after_append, first.closed] at start
      exact second.groups more rest rfl start
    · cases more with
      | nil => exact second.groups [] rest eq.symm rfl
      | cons c more =>
        -- The brace stands in the first text, and so does the group.
        obtain ⟨rfl, rfl⟩ := List.cons.inj eq
        obtain ⟨body, behind, rfl, quiet, holds⟩ := first.groups before more rfl start
        exact ⟨body, behind ++ ds, by simp, quiet, holds⟩

/-- A bracket other than an opening brace starts no group. -/
theorem of_bracket {c : Char} (h : isBracket c = true) (ne : c ≠ '{') : Braced P 0 [c] := by
  refine of_not_mem (Scan.next_outside_of_isBracket h) ?_
  rw [Scan.brackets, if_pos ⟨rfl, h⟩]
  simpa [Scan.brackets] using ne.symm

/-- Parentheses around a text add no group. -/
theorem round (h : Braced P n cs) : Braced P n ('(' :: cs ++ [')']) := by
  have inner := ((of_bracket (c := '(') (by decide) (by decide)).append h).append
    (of_bracket (P := P) (c := ')') (by decide) (by decide))
  rwa [Nat.zero_add] at inner

/-- Square brackets around a text without brackets make no group. -/
theorem square (h : Quiet cs) : Braced P 0 ('[' :: cs ++ [']']) :=
  ((of_bracket (c := '[') (by decide) (by decide)).append (of_quiet h)).append
    (of_bracket (P := P) (c := ']') (by decide) (by decide))

/-- Braces around a text without brackets make one group of it. -/
theorem curly (h : Quiet cs) (holds : P cs) : Braced P 1 ('{' :: cs ++ ['}']) where
  closed := (Scan.enclosed (by decide) (by decide) h.1).1
  count := by
    rw [(Scan.enclosed (by decide) (by decide) h.1).2, h.2]
    decide
  groups := by
    intro before rest split start
    cases before with
    | nil => exact ⟨cs, [], (List.cons.inj split).2.symm, h, holds⟩
    | cons c before =>
      -- No second brace is opened, neither in the text nor by what closes the group.
      obtain ⟨rfl, eq⟩ := List.cons.inj split
      have inner : '{' ∈ Scan.outside.brackets (cs ++ ['}']) := by
        rw [show cs ++ ['}'] = before ++ '{' :: rest from eq]
        exact mem_brackets start
      rw [Scan.brackets_append, h.1, h.2] at inner
      exact absurd inner (by decide)

end Braced

variable {P : List Char → Prop}

/-- Label names are written without groups. -/
theorem braced_labelListChars (labels : List String) : Braced P 0 (labelListChars labels) := by
  obtain ⟨inner, quiet, eq⟩ := labelListChars_eq labels
  exact eq ▸ (Braced.of_quiet quiet).round

/-- The clause of an aggregation is written without groups. -/
theorem braced_groupingChars (grouping : List String) (without : Bool) :
    Braced P 0 (groupingChars grouping without) := by
  have labels := braced_labelListChars (P := P) grouping
  have blank : Braced P 0 [' '] := .of_quiet (by decide)
  unfold groupingChars
  split
  · exact ((Braced.of_quiet (by decide)).append labels).append blank
  split
  · exact .of_quiet (by decide)
  · exact ((Braced.of_quiet (by decide)).append labels).append blank

/-- The clauses of an operation are written without groups. -/
theorem braced_matchingChars (matching : Option VectorMatching) :
    Braced P 0 (matchingChars matching) := by
  have none : Braced P 0 [] := .of_quiet (by decide)
  cases matching with
  | none => exact none
  | some m =>
    have labels := braced_labelListChars (P := P) m.labels
    have includes := braced_labelListChars (P := P) m.includes
    unfold matchingChars
    refine .append (n := 0) (k := 0) ?_ ?_
    · split
      · exact (Braced.of_quiet (by decide)).append labels
      split
      · exact none
      · exact (Braced.of_quiet (by decide)).append labels
    · split
      · exact (Braced.of_quiet (by decide)).append includes
      · exact (Braced.of_quiet (by decide)).append includes
      · exact none
      · exact none

namespace Expr

variable {f : Selector → Selector}

mutual

/-- In the text of a plain expression whose selectors have been treated there is one group for each
selector, with the property that the treated selectors are written with. -/
theorem braced_chars_mapSelectors (braced : ∀ s, Braced P 1 (f s).bodyChars) : ∀ {e : Expr},
    isPlain e = true → Braced P (selectors e).length (chars (mapSelectors f e))
  | aggregate op body param grouping without, h => by
    rw [isPlain, Bool.and_eq_true] at h
    have inner := (braced_paramChars_mapSelectors braced h.2).append
      (braced_chars_mapSelectors braced h.1)
    have clause := (braced_groupingChars (P := P) grouping without).append inner.round
    rw [mapSelectors, chars_aggregate, selectors, List.length_append, Nat.add_comm]
    simpa only [Nat.zero_add] using (Braced.of_quiet op.quiet_keyword).append clause
  | binary op lhs rhs returnBool matching, h => by
    rw [isPlain, Bool.and_eq_true] at h
    have behind := (Braced.of_quiet (P := P) (by decide : Quiet [' '])).append
      (braced_chars_mapSelectors braced h.2)
    have between := (Braced.of_quiet (quiet_operatorChars op returnBool)).append
      ((braced_matchingChars matching).append behind)
    rw [mapSelectors, chars_binary, selectors, List.length_append]
    simpa only [Nat.zero_add] using (braced_chars_mapSelectors braced h.1).append between
  | call func args, h => by
    have arguments : listIsPlain args = true := h
    have inner := (Braced.of_quiet (quiet_nameChars func)).append
      (braced_argsChars_mapSelectors braced arguments).round
    rw [mapSelectors, chars_call, selectors]
    simpa only [Nat.zero_add] using inner
  | subquery body range step offset, h => by
    rw [mapSelectors, chars_subquery]
    exact (braced_chars_mapSelectors braced (e := body) h).append
      ((Braced.square (quiet_stepChars range step)).append (.of_quiet (quiet_offsetChars offset)))
  | paren body, h => (braced_chars_mapSelectors braced (e := body) h).round
  | unary op body, h => by
    have signed := (Braced.of_quiet op.quiet_token).append
      (braced_chars_mapSelectors braced (e := body) h)
    rwa [Nat.zero_add] at signed
  | number value, _ => .of_quiet (Decimal.quiet_queryChars value)
  | text _, _ => .of_quiet (Scan.quiet_encode _)
  | matrix _ range, h => by
    obtain ⟨s, is_selector⟩ := Option.isSome_iff_exists.mp h
    obtain rfl := eq_vector_of_selector? is_selector
    exact ((braced s).append (Braced.square range.quiet_chars)).append
      (.of_quiet (quiet_offsetChars (f s).offset))
  | vector s, _ => (braced s).append (.of_quiet (quiet_offsetChars (f s).offset))

/-- In the text of plain arguments there is one group for each selector. -/
theorem braced_argsChars_mapSelectors (braced : ∀ s, Braced P 1 (f s).bodyChars) :
    ∀ {es : List Expr}, listIsPlain es = true →
      Braced P (listSelectors es).length (argsChars (listMapSelectors f es))
  | [], _ => .of_quiet ⟨rfl, rfl⟩
  | [e], h => by
    rw [listIsPlain, Bool.and_eq_true] at h
    rw [listSelectors, List.length_append]
    exact braced_chars_mapSelectors braced h.1
  | e :: next :: rest, h => by
    rw [listIsPlain, Bool.and_eq_true] at h
    have comma : Braced P 0 [',', ' '] := .of_quiet (by decide)
    have behind := comma.append (braced_argsChars_mapSelectors braced h.2)
    rw [Nat.zero_add] at behind
    rw [listSelectors, List.length_append]
    exact (braced_chars_mapSelectors braced h.1).append behind

/-- In the text of a plain parameter, or of none, there is one group for each selector. -/
theorem braced_paramChars_mapSelectors (braced : ∀ s, Braced P 1 (f s).bodyChars) :
    ∀ {e : Option Expr}, optionIsPlain e = true →
      Braced P (optionSelectors e).length (paramChars (optionMapSelectors f e))
  | none, _ => .of_quiet ⟨rfl, rfl⟩
  | some e, h => (braced_chars_mapSelectors braced (e := e) h).append (.of_quiet (by decide))

end

end Expr

end SelectorGuard
