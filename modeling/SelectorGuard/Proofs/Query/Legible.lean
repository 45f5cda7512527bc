import SelectorGuard.Proofs.Query.Frame
import SelectorGuard.Proofs.Query.Shape

/-!
# Query text keeps every text of an expression

When the shape of an expression is known, its query text is read from left to right and gives back
every text and every comparison. A bare name ends where a character stands that no name may hold,
and something of this kind follows every place at which a bare name can stand. A list goes on behind
a comma and ends at its closing character, however many texts it has. Only labels to take over that
stand in a matching without such a clause are not written, and so they are lost.
-/

namespace SelectorGuard

open Text.Quoted (encode encode_append_inj)

/-- A text that cannot go on a name in front of it. -/
def EndsName (cs : List Char) : Prop :=
  cs.takeWhile Label.isMetricRest = []

/-- A text that starts with no character of names ends a name. -/
theorem endsName_cons {c : Char} (h : Label.isMetricRest c = false) (cs : List Char) :
    EndsName (c :: cs) :=
  List.takeWhile_cons_of_neg (Bool.eq_false_iff.mp h)

variable {tail rest : List Char}

/-! ### Names -/

/-- A legal metric name and a continuation that ends it are determined by their text. -/
theorem Label.append_inj_of_isMetricName {name other : String} (hn : isMetricName name = true)
    (ho : isMetricName other = true) (ht : EndsName tail) (hr : EndsName rest)
    (h : name.toList ++ tail = other.toList ++ rest) : name = other ∧ tail = rest := by
  have split := run_append_inj (fun _ => isMetricRest_of_mem hn) (fun _ => isMetricRest_of_mem ho)
    ht hr h
  exact ⟨String.toList_inj.mp split.1, split.2⟩

/-- A legal metric name starts with a character of names. -/
theorem Label.exists_cons_of_isMetricName {name : String} (h : isMetricName name = true) :
    ∃ c cs, name.toList = c :: cs ∧ isMetricRest c = true := by
  cases chars : name.toList with
  | nil => simp [isMetricName, chars] at h
  | cons c cs => exact ⟨c, cs, rfl, isMetricRest_of_mem h (chars ▸ List.mem_cons_self)⟩

/-- A text that starts with a legal metric name differs from every text that starts otherwise. -/
theorem Label.append_ne_of_isMetricName {name : String} (hn : isMetricName name = true) {d : Char}
    (hd : isMetricRest d = false) : name.toList ++ tail ≠ d :: rest := by
  obtain ⟨c, cs, chars, hc⟩ := exists_cons_of_isMetricName hn
  intro h
  rw [chars] at h
  obtain ⟨rfl, -⟩ := List.cons.inj h
  rw [hd] at hc
  cases hc

/-- A name, be it legal or not, and a continuation that ends it are determined by their text. -/
theorem nameChars_append_inj {name other : String} (ht : EndsName tail) (hr : EndsName rest)
    (h : nameChars name ++ tail = nameChars other ++ rest) : name = other ∧ tail = rest := by
  unfold nameChars at h
  split at h <;> split at h
  · next hn ho =>
    exact Label.append_inj_of_isMetricName (Label.isMetricName_of_isName hn)
      (Label.isMetricName_of_isName ho) ht hr h
  · next hn _ =>
    exact absurd h (Label.append_ne_of_isMetricName (Label.isMetricName_of_isName hn) (by decide))
  · next _ ho =>
    exact absurd h.symm
      (Label.append_ne_of_isMetricName (Label.isMetricName_of_isName ho) (by decide))
  · have split := encode_append_inj h
    exact ⟨String.toList_inj.mp split.1, split.2⟩

/-! ### Lists of texts -/

/-- What follows the first of some texts with commas between them, up to a character that closes the
list, and the continuation. -/
def afterFirst (close : Char) (tail : List Char) : List (List Char) → List Char
  | [] => close :: tail
  | second :: more => ',' :: ' ' :: (commaSeparated (second :: more) ++ close :: tail)

/-- Texts with commas between them start with the first one. -/
theorem commaSeparated_cons_append (first : List Char) (more : List (List Char)) (close : Char)
    (tail : List Char) :
    commaSeparated (first :: more) ++ close :: tail = first ++ afterFirst close tail more := by
  cases more with
  | nil => rfl
  | cons second more =>
    simp only [commaSeparated, afterFirst, List.append_assoc, List.cons_append, List.nil_append]

/-- Things whose texts can be listed up to a closing character. -/
structure Listable {α : Type} (f : α → List Char) (close : Char) : Prop where
  /-- The closing character goes on no name. -/
  ends : Label.isMetricRest close = false
  /-- It is no comma. -/
  comma : close ≠ ','
  /-- No text starts with it. -/
  starts : ∀ a cs ds, f a ++ cs ≠ close :: ds
  /-- A text determines what it stands for and how it goes on, if it goes on with the end of a name.
  -/
  inj : ∀ {a b tail rest}, EndsName tail → EndsName rest → f a ++ tail = f b ++ rest →
    a = b ∧ tail = rest

namespace Listable

variable {α : Type} {f : α → List Char} {close : Char}

/-- What follows the first text ends a name. -/
theorem endsName_afterFirst (listable : Listable f close) (tail : List Char)
    (more : List (List Char)) : EndsName (afterFirst close tail more) := by
  cases more with
  | nil => exact endsName_cons listable.ends _
  | cons second more => exact endsName_cons (by decide) _

/-- The things listed behind the first one, and the continuation, are determined by their text. -/
theorem afterFirst_inj (listable : Listable f close) : ∀ {xs ys : List α},
    afterFirst close tail (xs.map f) = afterFirst close rest (ys.map f) → xs = ys ∧ tail = rest
  | [], [], h => ⟨rfl, (List.cons.inj h).2⟩
  | [], _ :: _, h => absurd (List.cons.inj h).1 listable.comma
  | _ :: _, [], h => absurd (List.cons.inj h).1.symm listable.comma
  | x :: xs, y :: ys, h => by
    simp only [List.map_cons, afterFirst, List.cons.injEq, true_and] at h
    rw [commaSeparated_cons_append, commaSeparated_cons_append] at h
    obtain ⟨rfl, same⟩ := listable.inj (listable.endsName_afterFirst _ _)
      (listable.endsName_afterFirst _ _) h
    obtain ⟨rfl, tails⟩ := listable.afterFirst_inj same
    exact ⟨rfl, tails⟩

/-- The things listed up to the closing character, however many there are, and the continuation are
determined by their text. -/
theorem append_inj (listable : Listable f close) {xs ys : List α}
    (h : commaSeparated (xs.map f) ++ close :: tail =
      commaSeparated (ys.map f) ++ close :: rest) : xs = ys ∧ tail = rest := by
  cases xs with
  | nil =>
    cases ys with
    | nil => exact ⟨rfl, (List.cons.inj h).2⟩
    | cons y ys =>
      rw [List.map_cons, commaSeparated_cons_append] at h
      exact absurd h.symm (listable.starts y _ _)
  | cons x xs =>
    rw [List.map_cons, commaSeparated_cons_append] at h
    cases ys with
    | nil => exact absurd h (listable.starts x _ _)
    | cons y ys =>
      rw [List.map_cons, commaSeparated_cons_append] at h
      obtain ⟨rfl, same⟩ := listable.inj (listable.endsName_afterFirst _ _)
        (listable.endsName_afterFirst _ _) h
      obtain ⟨rfl, tails⟩ := listable.afterFirst_inj same
      exact ⟨rfl, tails⟩

end Listable

/-- Names can be listed up to a parenthesis. -/
theorem listable_nameChars : Listable nameChars ')' where
  ends := by decide
  comma := by decide
  starts := by
    intro name cs ds h
    unfold nameChars at h
    split at h
    · next legal =>
      exact Label.append_ne_of_isMetricName (Label.isMetricName_of_isName legal) (by decide) h
    · cases h
  inj := nameChars_append_inj

/-- Label names in parentheses, and the continuation, are determined by their text. -/
theorem labelListChars_append_inj {labels other : List String}
    (h : labelListChars labels ++ tail = labelListChars other ++ rest) :
    labels = other ∧ tail = rest := by
  simp only [labelListChars, List.append_assoc, List.cons_append, List.nil_append, List.cons.injEq,
    true_and] at h
  exact listable_nameChars.append_inj h

/-- A clause with labels starts with one of two words, and without labels the second one is left out
together with the clause. If there are labels in both or in neither, they and the continuation are
determined by the text. -/
theorem clause_append_inj (flag : Bool) (word other behind : List Char) {labels labels' : List String}
    (bare : labels.isEmpty = labels'.isEmpty)
    (h : (if flag then word ++ labelListChars labels ++ behind
        else if labels.isEmpty then [] else other ++ labelListChars labels ++ behind) ++ tail =
      (if flag then word ++ labelListChars labels' ++ behind
        else if labels'.isEmpty then [] else other ++ labelListChars labels' ++ behind) ++ rest) :
    labels = labels' ∧ tail = rest := by
  have listed (front : List Char)
      (text : front ++ labelListChars labels ++ behind ++ tail =
        front ++ labelListChars labels' ++ behind ++ rest) : labels = labels' ∧ tail = rest := by
    simp only [List.append_assoc] at text
    have split := labelListChars_append_inj (List.append_cancel_left text)
    exact ⟨split.1, List.append_cancel_left split.2⟩
  cases flag with
  | true => exact listed word h
  | false =>
    cases labels with
    | nil =>
      obtain rfl := List.isEmpty_iff.mp bare.symm
      exact ⟨rfl, h⟩
    | cons label labels =>
      cases labels' with
      | nil => cases bare
      | cons label' labels' => exact listed other h

/-- If there are labels in both groupings or in neither, they and the continuation are determined by
their text. -/
theorem groupingChars_append_inj {grouping other : List String} (without : Bool)
    (bare : grouping.isEmpty = other.isEmpty)
    (h : groupingChars grouping without ++ tail = groupingChars other without ++ rest) :
    grouping = other ∧ tail = rest :=
  clause_append_inj without _ _ [' '] bare h

/-! ### Matchings -/

/-- The labels to take over, as far as there is a clause for them. -/
def Cardinality.listed (card : Cardinality) (includes : List String) : List String :=
  match card with
  | manyToOne | oneToMany => includes
  | oneToOne | manyToMany => []

/-- A matching without labels to take over where it has no clause for them. -/
def VectorMatching.listed (m : VectorMatching) : VectorMatching :=
  { m with includes := m.card.listed m.includes }

/-- The clause with the labels to take over. -/
def includeChars (card : Cardinality) (includes : List String) : List Char :=
  match card with
  | .manyToOne => " group_left ".toList ++ labelListChars includes
  | .oneToMany => " group_right ".toList ++ labelListChars includes
  | .oneToOne | .manyToMany => []

/-- A matching is written as two clauses, one with the labels to match on or to ignore and one with
those to take over. -/
theorem matchingChars_some (m : VectorMatching) :
    matchingChars (some m) =
      (if m.on then " on ".toList ++ labelListChars m.labels ++ []
        else if m.labels.isEmpty then []
        else " ignoring ".toList ++ labelListChars m.labels ++ []) ++
      includeChars m.card m.includes := by
  simp only [List.append_nil]
  rfl

/-- The labels to take over, as far as there is a clause for them, and the continuation are
determined by their text. -/
theorem includeChars_append_inj (card : Cardinality) {includes other : List String}
    (h : includeChars card includes ++ tail = includeChars card other ++ rest) :
    card.listed includes = card.listed other ∧ tail = rest := by
  cases card with
  | oneToOne => exact ⟨rfl, h⟩
  | manyToMany => exact ⟨rfl, h⟩
  | manyToOne =>
    unfold includeChars at h
    rw [List.append_assoc, List.append_assoc] at h
    exact labelListChars_append_inj (List.append_cancel_left h)
  | oneToMany =>
    unfold includeChars at h
    rw [List.append_assoc, List.append_assoc] at h
    exact labelListChars_append_inj (List.append_cancel_left h)

/-- A matching and the continuation are determined by their text, but for labels to take over where
there is no clause for them. -/
theorem matchingChars_append_inj {m n : Option VectorMatching}
    (alike : Option.Rel VectorMatching.Alike m n)
    (h : matchingChars m ++ tail = matchingChars n ++ rest) :
    m.map VectorMatching.listed = n.map VectorMatching.listed ∧ tail = rest := by
  cases alike with
  | none => exact ⟨rfl, h⟩
  | @some m n alike =>
    obtain ⟨card, on, labels, includes⟩ := m
    obtain ⟨card', on', labels', includes'⟩ := n
    obtain ⟨rfl, rfl, labelCount, -⟩ := alike
    rw [matchingChars_some, matchingChars_some, List.append_assoc _ (includeChars card includes),
      List.append_assoc _ (includeChars card includes')] at h
    obtain ⟨rfl, others⟩ := clause_append_inj _ _ _ [] (isEmpty_eq_of_length_eq labelCount) h
    obtain ⟨listed, same⟩ := includeChars_append_inj card others
    refine ⟨congrArg some ?_, same⟩
    rw [VectorMatching.listed, VectorMatching.listed, listed]

/-! ### Selectors -/

/-- Selectors of one shape that both have a metric name, or both have none. -/
structure Selector.AlikeNamed (s t : Selector) : Prop extends Selector.Alike s t where
  /-- The metric name is there in both or in neither. -/
  name : s.name.isSome = t.name.isSome

/-- The constraint on the label `__name__` that a metric name amounts to. -/
def Matcher.ofMetric (name : String) : Matcher :=
  .equalTo "__name__" name (by decide)

/-- The constraint for a metric name is written as the name between quotes behind the label. -/
theorem Matcher.chars_ofMetric (name : String) :
    (ofMetric name).chars = "__name__=".toList ++ encode name.toList := by
  have label : "__name__=".toList = "__name__".toList ++ "=".toList := by decide
  rw [label]
  rfl

/-- A text that starts with a matcher differs from every text that starts with no character of
names. -/
theorem Matcher.append_ne (m : Matcher) {d : Char} (hd : Label.isMetricRest d = false) :
    m.chars ++ tail ≠ d :: rest := by
  rw [chars, List.append_assoc, List.append_assoc]
  exact Label.append_ne_of_isMetricName (Label.isMetricName_of_isName m.name_legal) hd

/-- Matchers can be listed up to a brace. -/
theorem Matcher.listable_chars : Listable Matcher.chars '}' where
  ends := by decide
  comma := by decide
  starts := fun m _ _ => m.append_ne (by decide)
  inj := fun _ _ => chars_append_inj

/-- Matchers in braces, which are left out without matchers. -/
def bracesChars (ms : List Matcher) : List Char :=
  if ms.isEmpty then [] else '{' :: commaSeparated (ms.map Matcher.chars) ++ ['}']

/-- Braces end a name, and so does what follows them if they are left out. -/
theorem endsName_bracesChars_append (ms : List Matcher) (ht : EndsName tail) :
    EndsName (bracesChars ms ++ tail) := by
  cases ms with
  | nil => exact ht
  | cons m ms => exact endsName_cons (by decide) _

/-- If there are matchers in both or in neither, those in braces and the continuation are determined
by their text. -/
theorem bracesChars_append_inj {ms ns : List Matcher} (bare : ms.isEmpty = ns.isEmpty)
    (h : bracesChars ms ++ tail = bracesChars ns ++ rest) : ms = ns ∧ tail = rest := by
  cases ms with
  | nil =>
    obtain rfl := List.isEmpty_iff.mp bare.symm
    exact ⟨rfl, h⟩
  | cons m ms =>
    cases ns with
    | nil => cases bare
    | cons n ns =>
      simp only [bracesChars, List.isEmpty_cons, Bool.false_eq_true, if_false, List.append_assoc,
        List.cons_append, List.nil_append, List.cons.injEq, true_and] at h
      exact Matcher.listable_chars.append_inj h

namespace Selector

/-- All that a selector demands of a series: its metric name as a constraint on `__name__`, then its
matchers. -/
def constraints (s : Selector) : List Matcher :=
  (s.name.map Matcher.ofMetric).toList ++ s.matchers

/-- A selector with a legal metric name is written as the name with the matchers in braces behind
it. -/
theorem bodyChars_of_isMetricName {s : Selector} {name : String} (hs : s.name = some name)
    (legal : Label.isMetricName name = true) :
    s.bodyChars = name.toList ++ bracesChars s.matchers := by
  rw [bodyChars, hs, bracesChars]
  dsimp only
  rw [if_pos legal]
  cases s.matchers with
  | nil => simp
  | cons m ms => simp

/-- Unless its metric name can stand in front of the braces, a selector is written as its
constraints between braces. -/
theorem bodyChars_eq_constraints {s : Selector}
    (inside : ∀ name ∈ s.name, ¬ Label.isMetricName name = true) :
    s.bodyChars = '{' :: commaSeparated (s.constraints.map Matcher.chars) ++ ['}'] := by
  cases metric : s.name with
  | none =>
    rw [bodyChars, constraints, metric]
    rfl
  | some name =>
    rw [bodyChars, constraints, metric]
    dsimp only
    rw [if_neg (inside name metric), ← Matcher.chars_ofMetric]
    rfl

/-- A metric name either stands in front of the braces or, if there is one at all, between them. -/
theorem isMetricName_or_inside (s : Selector) :
    (∃ name, s.name = some name ∧ Label.isMetricName name = true) ∨
      ∀ name ∈ s.name, ¬ Label.isMetricName name = true := by
  by_cases legal : ∃ name, s.name = some name ∧ Label.isMetricName name = true
  · exact .inl legal
  · exact .inr fun name hn bare => legal ⟨name, hn, bare⟩

/-- A selector with its metric name in front is not written like one without. -/
theorem bodyChars_append_ne {s t : Selector} {name : String} (hs : s.name = some name)
    (legal : Label.isMetricName name = true)
    (inside : ∀ name ∈ t.name, ¬ Label.isMetricName name = true) :
    s.bodyChars ++ tail ≠ t.bodyChars ++ rest := by
  rw [bodyChars_of_isMetricName hs legal, bodyChars_eq_constraints inside, List.append_assoc]
  exact Label.append_ne_of_isMetricName legal (by decide)

/-- The constraints of a selector and the continuation are determined by its text up to the range or
offset, if its matchers in braces and the continuation are. -/
theorem bodyChars_append_inj {s t : Selector} (ht : EndsName tail) (hr : EndsName rest)
    (braces : bracesChars s.matchers ++ tail = bracesChars t.matchers ++ rest →
      s.matchers = t.matchers ∧ tail = rest)
    (h : s.bodyChars ++ tail = t.bodyChars ++ rest) :
    s.constraints = t.constraints ∧ tail = rest := by
  rcases s.isMetricName_or_inside with ⟨name, hs, legal⟩ | inside
  · rcases t.isMetricName_or_inside with ⟨other, ho, legal'⟩ | inside'
    · rw [bodyChars_of_isMetricName hs legal, bodyChars_of_isMetricName ho legal',
        List.append_assoc, List.append_assoc] at h
      obtain ⟨names, others⟩ := Label.append_inj_of_isMetricName legal legal'
        (endsName_bracesChars_append _ ht) (endsName_bracesChars_append _ hr) h
      obtain ⟨matchers, tails⟩ := braces others
      exact ⟨by rw [constraints, constraints, hs, ho, names, matchers], tails⟩
    · exact absurd h (bodyChars_append_ne hs legal inside')
  · rcases t.isMetricName_or_inside with ⟨other, ho, legal'⟩ | inside'
    · exact absurd h.symm (bodyChars_append_ne ho legal' inside)
    · rw [bodyChars_eq_constraints inside, bodyChars_eq_constraints inside'] at h
      simp only [List.append_assoc, List.cons_append, List.nil_append, List.cons.injEq,
        true_and] at h
      exact Matcher.listable_chars.append_inj h

/-- Selectors that are shifted alike and both have a metric name, or both have none, are equal if
they have the same constraints. -/
theorem eq_of_constraints_eq {s t : Selector} (named : s.name.isSome = t.name.isSome)
    (shifted : s.offset = t.offset) (h : s.constraints = t.constraints) : s = t := by
  obtain ⟨name, ms, offset⟩ := s
  obtain ⟨name', ns, offset'⟩ := t
  obtain rfl : offset = offset' := shifted
  cases name with
  | none =>
    cases name' with
    | none =>
      obtain rfl : ms = ns := h
      rfl
    | some other => cases named
  | some name =>
    cases name' with
    | none => cases named
    | some other =>
      obtain ⟨metric, rfl⟩ := List.cons.inj h
      obtain rfl : name = other := congrArg Matcher.value metric
      rfl

/-- Of two selectors of one shape, the metric name, the matchers and the continuation are determined
by their text up to the range or offset. -/
theorem AlikeNamed.bodyChars_append_inj {s t : Selector} (alike : s.AlikeNamed t)
    (ht : EndsName tail) (hr : EndsName rest) (h : s.bodyChars ++ tail = t.bodyChars ++ rest) :
    s = t ∧ tail = rest := by
  have bare := isEmpty_eq_of_length_eq alike.matchers
  obtain ⟨same, tails⟩ :=
    Selector.bodyChars_append_inj ht hr (bracesChars_append_inj bare) h
  exact ⟨eq_of_constraints_eq alike.name alike.offset same, tails⟩

end Selector

/-! ### Expressions -/

/-- An offset ends a name, and so does what follows it if it is missing. -/
theorem endsName_offsetChars_append (offset : Option Duration) (ht : EndsName tail) :
    EndsName (offsetChars offset ++ tail) := by
  cases offset with
  | none => exact ht
  | some d => exact endsName_cons (by decide) _

namespace Expr

mutual

/-- An expression without labels to take over where a matching has no clause for them. -/
def listed : Expr → Expr
  | aggregate op body param grouping without =>
    aggregate op (listed body) (optionListed param) grouping without
  | binary op lhs rhs returnBool matching =>
    binary op (listed lhs) (listed rhs) returnBool (matching.map VectorMatching.listed)
  | call func args => call func (listListed args)
  | subquery body range step offset => subquery (listed body) range step offset
  | paren body => paren (listed body)
  | unary op body => unary op (listed body)
  | number value => number value
  | text value => text value
  | matrix body range => matrix (listed body) range
  | vector s => vector s
  | extension kind args => extension kind (listListed args)

/-- Expressions without labels to take over where a matching has no clause for them. -/
def listListed : List Expr → List Expr
  | [] => []
  | e :: rest => listed e :: listListed rest

/-- An expression that may be missing, without labels to take over where a matching has no clause
for them. -/
def optionListed : Option Expr → Option Expr
  | none => none
  | some e => some (listed e)

end

mutual

/-- Of two expressions of one shape, every text that is written and the continuation are determined
by the query text. The induction follows the shape and reads the text from the left; the
continuation must end a name, because an expression may end with a bare one. -/
theorem chars_append_inj : ∀ {e e' : Expr}, Alike Selector.AlikeNamed e e' →
    ∀ {tail rest : List Char}, EndsName tail → EndsName rest →
      chars e ++ tail = chars e' ++ rest → listed e = listed e' ∧ tail = rest
  | _, _, .aggregate op without body param grouping, tail, rest, _, _, h => by
    rw [chars_aggregate, chars_aggregate] at h
    simp only [List.append_assoc, List.cons_append, List.nil_append] at h
    obtain ⟨rfl, inner⟩ :=
      groupingChars_append_inj without (isEmpty_eq_of_length_eq grouping) (List.append_cancel_left h)
    obtain ⟨params, bodies⟩ := paramChars_append_inj param (List.cons.inj inner).2
    have close (cs : List Char) : EndsName (')' :: cs) := endsName_cons (by decide) _
    obtain ⟨same, tails⟩ := chars_append_inj body (close _) (close _) bodies
    rw [listed, listed, same, params]
    exact ⟨rfl, (List.cons.inj tails).2⟩
  | _, _, .binary op returnBool lhs rhs matching, tail, rest, ht, hr, h => by
    rw [chars_binary, chars_binary] at h
    simp only [List.append_assoc] at h
    have operator (cs : List Char) : EndsName (operatorChars op returnBool ++ cs) :=
      endsName_cons (by decide) _
    obtain ⟨left, others⟩ := chars_append_inj lhs (operator _) (operator _) h
    obtain ⟨clauses, others⟩ := matchingChars_append_inj matching (List.append_cancel_left others)
    obtain ⟨right, tails⟩ := chars_append_inj rhs ht hr (List.append_cancel_left others)
    rw [listed, listed, left, right, clauses]
    exact ⟨rfl, tails⟩
  | _, _, .call func func' args, tail, rest, _, _, h => by
    rw [chars_call, chars_call] at h
    simp only [List.append_assoc, List.cons_append, List.nil_append] at h
    have opening (cs : List Char) : EndsName ('(' :: cs) := endsName_cons (by decide) _
    have close (cs : List Char) : EndsName (')' :: cs) := endsName_cons (by decide) _
    obtain ⟨rfl, inner⟩ := nameChars_append_inj (opening _) (opening _) h
    obtain ⟨same, tails⟩ := argsChars_append_inj args (close _) (close _) (List.cons.inj inner).2
    rw [listed, listed, same]
    exact ⟨rfl, (List.cons.inj tails).2⟩
  | _, _, .subquery range step offset body, tail, rest, _, _, h => by
    rw [chars_subquery, chars_subquery] at h
    simp only [List.append_assoc, List.cons_append] at h
    have opening (cs : List Char) : EndsName ('[' :: cs) := endsName_cons (by decide) _
    obtain ⟨same, others⟩ := chars_append_inj body (opening _) (opening _) h
    rw [listed, listed, same]
    exact ⟨rfl, by simpa using others⟩
  | _, _, .paren body, tail, rest, _, _, h => by
    simp only [chars, List.append_assoc, List.cons_append, List.nil_append, List.cons.injEq,
      true_and] at h
    have close (cs : List Char) : EndsName (')' :: cs) := endsName_cons (by decide) _
    obtain ⟨same, tails⟩ := chars_append_inj body (close _) (close _) h
    rw [listed, listed, same]
    exact ⟨rfl, (List.cons.inj tails).2⟩
  | _, _, .unary op body, tail, rest, ht, hr, h => by
    rw [chars, chars, List.append_assoc, List.append_assoc] at h
    obtain ⟨same, tails⟩ := chars_append_inj body ht hr (List.append_cancel_left h)
    rw [listed, listed, same]
    exact ⟨rfl, tails⟩
  | _, _, .number _, _, _, _, _, h => ⟨rfl, List.append_cancel_left h⟩
  | _, _, .text _ _, _, _, _, _, h => by
    obtain ⟨texts, tails⟩ := encode_append_inj h
    obtain rfl := String.toList_inj.mp texts
    exact ⟨rfl, tails⟩
  | _, _, .matrix range body, tail, rest, ht, hr, h => by
    have opening (cs : List Char) : EndsName (rangeChars range ++ cs) :=
      endsName_cons (by decide) _
    rcases body.selector_or_none with ⟨s, t, rfl, rfl, related⟩ | ⟨none, none'⟩
    · have written (u : Selector) : chars (matrix (vector u) range) =
          u.bodyChars ++ rangeChars range ++ offsetChars u.offset := rfl
      rw [written, written] at h
      simp only [List.append_assoc] at h
      obtain ⟨rfl, others⟩ := related.bodyChars_append_inj (opening _) (opening _) h
      exact ⟨rfl, List.append_cancel_left (List.append_cancel_left others)⟩
    · rw [chars_matrix_of_selector?_eq_none none, chars_matrix_of_selector?_eq_none none'] at h
      simp only [List.append_assoc] at h
      obtain ⟨same, others⟩ := chars_append_inj body (opening _) (opening _) h
      rw [listed, listed, same]
      exact ⟨rfl, List.append_cancel_left others⟩
  | _, _, .vector (s := s) related, tail, rest, ht, hr, h => by
    rw [chars, chars, Selector.chars, Selector.chars, List.append_assoc, List.append_assoc] at h
    obtain ⟨rfl, others⟩ := related.bodyChars_append_inj (endsName_offsetChars_append _ ht)
      (endsName_offsetChars_append _ hr) h
    exact ⟨rfl, List.append_cancel_left others⟩

/-- Of arguments of the same shapes, every text that is written and the continuation are determined
by the query text. -/
theorem argsChars_append_inj : ∀ {es es' : List Expr}, ListAlike Selector.AlikeNamed es es' →
    ∀ {tail rest : List Char}, EndsName tail → EndsName rest →
      argsChars es ++ tail = argsChars es' ++ rest → listListed es = listListed es' ∧ tail = rest
  | _, _, .nil, _, _, _, _, h => ⟨rfl, h⟩
  | _, _, .cons head .nil, _, _, ht, hr, h => by
    obtain ⟨same, tails⟩ := chars_append_inj head ht hr h
    rw [listListed, listListed, same]
    exact ⟨rfl, tails⟩
  | _, _, .cons head (.cons next more), _, _, ht, hr, h => by
    simp only [argsChars, List.append_assoc, List.cons_append] at h
    have comma (cs : List Char) : EndsName (',' :: ' ' :: cs) := endsName_cons (by decide) _
    obtain ⟨same, others⟩ := chars_append_inj head (comma _) (comma _) h
    simp only [List.cons.injEq, true_and] at others
    obtain ⟨sames, tails⟩ := argsChars_append_inj (.cons next more) ht hr others
    exact ⟨congrArg₂ List.cons same sames, tails⟩

/-- Of parameters of the same shape, every text that is written and the continuation are determined
by the query text. -/
theorem paramChars_append_inj : ∀ {e e' : Option Expr}, OptionAlike Selector.AlikeNamed e e' →
    ∀ {tail rest : List Char}, paramChars e ++ tail = paramChars e' ++ rest →
      optionListed e = optionListed e' ∧ tail = rest
  | _, _, .none, _, _, h => ⟨rfl, h⟩
  | _, _, .some param, _, _, h => by
    simp only [paramChars, List.append_assoc, List.cons_append, List.nil_append] at h
    have comma (cs : List Char) : EndsName (',' :: ' ' :: cs) := endsName_cons (by decide) _
    obtain ⟨same, others⟩ := chars_append_inj param (comma _) (comma _) h
    simp only [List.cons.injEq, true_and] at others
    rw [optionListed, optionListed, same]
    exact ⟨rfl, others⟩

end

/-- Two expressions without extension nodes that have the same shape and the same query text are
equal, metric names, matchers with their comparisons, labels, function names and literals included.
What they may differ in are labels to take over in a matching of one to one or of many to many, which
has no clause for them. -/
theorem listed_eq_of_render_eq {e e' : Expr} (alike : Alike Selector.AlikeNamed e e')
    (h : e.render = e'.render) : e.listed = e'.listed := by
  have texts : chars e ++ [] = chars e' ++ [] := congrArg (· ++ []) (String.ofList_injective h)
  have nothing : EndsName [] := rfl
  exact (chars_append_inj alike nothing nothing texts).1

/-- A sum of two metrics whose matching of one to one has a label to take over. -/
def sumTakingOver (label : String) : Expr :=
  .binary .add (.vector ⟨some "a", [], none⟩) (.vector ⟨some "b", [], none⟩) false
    (some { includes := [label] })

/-- All sums with a label to take over have the same shape. -/
theorem alike_sumTakingOver (label other : String) :
    Alike Selector.AlikeNamed (sumTakingOver label) (sumTakingOver other) :=
  .binary _ _ (.vector ⟨⟨rfl, rfl⟩, rfl⟩) (.vector ⟨⟨rfl, rfl⟩, rfl⟩) (.some ⟨rfl, rfl, rfl, rfl⟩)

/-- The same query text stands for two sums with different labels to take over, which agree in
everything else. -/
theorem listed_eq_of_sums_taking_over :
    (sumTakingOver "x").render = (sumTakingOver "y").render ∧
      sumTakingOver "x" ≠ sumTakingOver "y" ∧
      (sumTakingOver "x").listed = (sumTakingOver "y").listed := by
  have texts : (sumTakingOver "x").render = (sumTakingOver "y").render := by decide
  refine ⟨texts, ?_, listed_eq_of_render_eq (alike_sumTakingOver "x" "y") texts⟩
  intro same
  simp [sumTakingOver] at same

/-- A label to take over in a matching of one to one is lost: two different sums have the same shape
and the same query text. -/
theorem render_loses_label_to_take_over :
    ¬ ∀ e e' : Expr, Alike Selector.AlikeNamed e e' → e.render = e'.render → e = e' := by
  intro injective
  have same := injective _ _ (alike_sumTakingOver "x" "y") (by decide)
  simp [sumTakingOver] at same

end Expr

end SelectorGuard
