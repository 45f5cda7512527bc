import SelectorGuard.Pattern.Anchored
import SelectorGuard.Proofs.Pattern.Search
import SelectorGuard.Proofs.Traversal
import Mathlib.Data.List.Basic

/-!
# Patterns that list literal texts

Several texts are spelled as one pattern, with a backslash before every character that has a meaning
of its own and a bar between any two texts. Whatever the texts consist of, the reader takes each
spelled character for itself and each bar for the end of an alternative, so what the pattern matches
are the texts and nothing else. A text that another one starts with does not hide it: a whole value
is matched, and only the right alternative reaches its end.
-/

namespace SelectorGuard.Pattern

/-! ### What the reader makes of the texts -/

/-- The part that matches one character. -/
def letter (c : Char) : Part :=
  .piece (.char (CharSet.singleton c)) 0

/-- The pattern that matches a text. -/
def literal (cs : List Char) : Pattern :=
  sequence (cs.map fun c => .char (CharSet.singleton c))

/-- The alternative that a text becomes, with how deeply it nests. -/
def alternative (cs : List Char) : Pattern × Nat :=
  (literal cs, if cs.length < 2 then 0 else 1)

/-- A level where some texts have been read, and a part of the next one. -/
def spelled (done : List (List Char)) (current : List Char) : Level where
  mode := {}
  capturing := false
  branches := (done.map alternative).reverse
  parts := (current.map letter).reverse

/-- The text that has been read so far is the current alternative. -/
theorem branch_spelled (done : List (List Char)) (current : List Char) :
    (spelled done current).branch = alternative current := by
  match current with
  | [] => rfl
  | [c] => rfl
  | c :: d :: rest =>
    have shallow : ((spelled done (c :: d :: rest)).parts.map Part.depth).foldl max 0 = 0 := by
      refine Nat.le_zero.mp (foldl_max_le (Nat.le_refl 0) fun n hn => ?_)
      obtain ⟨part, hp, rfl⟩ := List.mem_map.mp hn
      obtain ⟨e, -, rfl⟩ := List.mem_map.mp (List.mem_reverse.mp hp)
      exact Nat.le_refl 0
    have patterns : (spelled done (c :: d :: rest)).parts.reverse.map Part.pattern =
        (c :: d :: rest).map fun e => .char (CharSet.singleton e) := by
      rw [spelled, List.reverse_reverse, List.map_map]
      rfl
    have long : 2 ≤ (spelled done (c :: d :: rest)).parts.length := by
      simp [spelled]
    unfold Level.branch
    split
    · next none => simp [none] at long
    · next part one => simp [one] at long
    · rw [patterns, shallow, alternative, literal, if_neg (by simp)]

/-- A bar finishes the text that has been read so far. -/
theorem split_spelled (done : List (List Char)) (current : List Char) :
    (spelled done current).split = spelled (done ++ [current]) [] := by
  rw [Level.split, branch_spelled]
  simp [spelled]

/-- A character goes on with the text that has been read so far. -/
theorem add_letter_spelled (done : List (List Char)) (current : List Char) (c : Char) :
    (spelled done current).add (letter c) = spelled done (current ++ [c]) := by
  simp [spelled, Level.add]

/-- An alternative nests once at most. -/
theorem depth_alternative_le (cs : List Char) : (alternative cs).2 ≤ 1 := by
  dsimp only [alternative]
  split <;> omega

/-- All texts that have been read are the alternatives, and together they nest twice at most. -/
theorem whole_spelled {done : List (List Char)} {current first : List Char}
    {rest : List (List Char)} (h : done ++ [current] = first :: rest) :
    (spelled done current).whole.1 = choice (literal first) (rest.map literal) ∧
      (spelled done current).whole.2 ≤ 2 := by
  have branches : (spelled done current).branches.reverse = done.map alternative := by
    rw [spelled, List.reverse_reverse]
  cases done with
  | nil =>
    obtain ⟨rfl, rfl⟩ := List.cons.inj h
    have alone : (spelled [] current).whole = alternative current := branch_spelled [] current
    rw [alone]
    exact ⟨rfl, Nat.le_succ_of_le (depth_alternative_le current)⟩
  | cons text more =>
    obtain ⟨rfl, rfl⟩ := List.cons.inj h
    rw [Level.whole, branches, List.map_cons]
    dsimp only
    rw [branch_spelled]
    constructor
    · simp only [List.map_map, List.map_append, List.map_cons, List.map_nil, List.append_eq]
      rfl
    · refine Nat.succ_le_succ (foldl_max_le (Nat.zero_le 1) fun n hn => ?_)
      obtain ⟨b, hb, rfl⟩ := List.mem_map.mp hn
      rcases List.mem_cons.mp hb with rfl | hb
      · exact depth_alternative_le current
      · obtain ⟨cs, -, rfl⟩ := List.mem_map.mp (List.mem_reverse.mp hb)
        exact depth_alternative_le cs

/-! ### Reading the texts -/

/-- Reading a text goes on as reading another one from another state. As every step takes at least
one character, there are enough steps for what is left. -/
def LeadsTo (s : Progress) (cs : List Char) (t : Progress) (left : List Char) : Prop :=
  ∀ n, cs.length ≤ n → ∃ m, left.length ≤ m ∧ readParts n s cs = readParts m t left

namespace LeadsTo

variable {s t u : Progress} {cs ds es : List Char}

/-- Reading goes on as it is. -/
theorem refl (s : Progress) (cs : List Char) : LeadsTo s cs s cs :=
  fun n enough => ⟨n, enough, rfl⟩

/-- Reading goes on after it has gone on. -/
theorem trans (first : LeadsTo s cs t ds) (second : LeadsTo t ds u es) : LeadsTo s cs u es := by
  intro n enough
  obtain ⟨m, enough, eq⟩ := first n enough
  obtain ⟨k, enough, eq'⟩ := second m enough
  exact ⟨k, enough, eq.trans eq'⟩

/-- A step is made where nothing is skipped. -/
theorem of_step {c : Char} (plain : s.level.mode = {})
    (moved : ∀ n, step n s c cs = some (t, ds)) (shorter : ds.length ≤ cs.length) :
    LeadsTo s (c :: cs) t ds := by
  intro n enough
  obtain ⟨m, rfl⟩ : ∃ m, n = m + 1 := ⟨n - 1, by simp only [List.length_cons] at enough; omega⟩
  refine ⟨m, Nat.le_trans shorter (Nat.le_of_succ_le_succ enough), ?_⟩
  have here : s.level.mode.skip (c :: cs) = c :: cs := by
    rw [plain]
    rfl
  rw [readParts, here]
  simp only [moved, Option.bind_eq_bind, Option.bind_some]

end LeadsTo

/-- The state of the reader where some texts have been read, and a part of the next one. -/
def spelling (done : List (List Char)) (current : List Char) : Progress :=
  ⟨spelled done current, [], []⟩

/-- In the plain mode a literal stands for its character. -/
theorem pattern_literal {m : Mode} (plain : m = {}) (c : Char) :
    m.pattern (.literal c false) = some (.char (CharSet.singleton c)) := by
  rw [plain]
  rfl

/-- The spelling of a character is read as the character. -/
theorem leadsTo_escapeChar (done : List (List Char)) (current : List Char) (c : Char)
    (cs : List Char) :
    LeadsTo (spelling done current) (escapeChar c ++ cs) (spelling done (current ++ [c])) cs := by
  have added : (spelling done current).add (letter c) = spelling done (current ++ [c]) := by
    rw [Progress.add, spelling, add_letter_spelled]
    rfl
  have meaning := pattern_literal (m := (spelling done current).level.mode) rfl c
  rw [← added, escapeChar]
  split
  · next special =>
    have escapable : isEscapable c = true := by
      rw [isEscapable, special, Bool.true_or]
    have escaped : readEscape (spelling done current).level.mode (c :: cs) =
        some (.literal c false, cs) := by
      unfold readEscape
      exact if_pos escapable
    refine .of_step rfl (fun n => ?_) (Nat.le_succ cs.length)
    simp only [step, List.append_eq, List.cons_append, List.nil_append, escaped, meaning,
      Option.bind_eq_bind, Option.bind_some]
    rfl
  · next ordinary =>
    refine .of_step rfl (fun n => ?_) (Nat.le_refl cs.length)
    unfold step
    dsimp only
    split
    iterate 12 exact absurd (by decide) ordinary
    rw [meaning]
    rfl

/-- A bar is read as the end of a text. -/
theorem leadsTo_bar (done : List (List Char)) (current cs : List Char) :
    LeadsTo (spelling done current) ('|' :: cs) (spelling (done ++ [current]) []) cs := by
  refine .of_step rfl (fun n => ?_) (Nat.le_refl cs.length)
  rw [spelling, spelling, ← split_spelled]
  rfl

/-- The spelling of a text is read as the text. -/
theorem leadsTo_escape (done : List (List Char)) (current text cs : List Char) :
    LeadsTo (spelling done current) (escape text ++ cs) (spelling done (current ++ text)) cs := by
  induction text generalizing current with
  | nil =>
    rw [List.append_nil]
    exact .refl _ cs
  | cons c rest ih =>
    have first := leadsTo_escapeChar done current c (escape rest ++ cs)
    have others := ih (current ++ [c])
    rw [List.append_assoc, List.singleton_append] at others
    rw [escape, List.flatMap_cons, List.append_assoc]
    exact first.trans others

/-- The spelling of several texts is read as these texts, the last one of them being current. -/
theorem leadsTo_alternatives (done : List (List Char)) (text : List Char)
    (texts : List (List Char)) :
    ∃ before last, before ++ [last] = done ++ text :: texts ∧
      LeadsTo (spelling done []) (['|'].intercalate ((text :: texts).map escape))
        (spelling before last) [] := by
  induction texts generalizing done text with
  | nil =>
    have whole := leadsTo_escape done [] text []
    rw [List.append_nil] at whole
    exact ⟨done, text, rfl, by rwa [List.map_singleton, List.intercalate_singleton]⟩
  | cons next more ih =>
    obtain ⟨before, last, all, others⟩ := ih (done ++ [text]) next
    rw [List.append_assoc, List.singleton_append] at all
    refine ⟨before, last, all, ?_⟩
    rw [List.map_cons, List.map_cons, List.intercalate_cons_cons, ← List.map_cons,
      List.append_assoc]
    exact (leadsTo_escape done [] text _).trans ((leadsTo_bar done text _).trans others)

/-- What lists some texts spells the choice between them. -/
theorem parse?_alternatives (value : String) (values : List String) :
    parse? (alternatives (value :: values)).toList =
      some (choice (literal value.toList) (values.map fun v => literal v.toList)) := by
  obtain ⟨before, last, all, read⟩ :=
    leadsTo_alternatives [] value.toList (values.map String.toList)
  obtain ⟨whole, shallow⟩ := whole_spelled all
  obtain ⟨m, -, same⟩ := read _ (Nat.le_refl _)
  have finished : readParts m (spelling before last) [] = some (spelled before last).whole := by
    rw [readParts]
    rfl
  have spelling_eq : (alternatives (value :: values)).toList =
      ['|'].intercalate ((value.toList :: values.map String.toList).map escape) := by
    rw [alternatives, String.toList_ofList, List.map_cons, List.map_cons, List.map_map]
    rfl
  rw [parse?, spelling_eq]
  have start : (⟨Level.start {} false, [], []⟩ : Progress) = spelling [] [] := rfl
  have within : (spelled before last).whole.2 ≤ depthLimit := Nat.le_trans shallow (by decide)
  rw [start, same, finished]
  simp only [Option.bind_eq_bind, Option.bind_some, if_pos within, whole, List.map_map]
  rfl

/-! ### What the texts match -/

variable {text : List Char} {i j k : Nat}

/-- The set of one character matches at this character. -/
theorem matches_singleton_iff {c : Char} :
    Matches text (.char (CharSet.singleton c)) i j ↔ text[i]? = some c ∧ j = i + 1 := by
  constructor
  · rintro ⟨⟩
    next d member read =>
      rw [CharSet.contains_singleton, beq_iff_eq] at member
      exact ⟨member ▸ read, rfl⟩
  · rintro ⟨read, rfl⟩
    exact .char read (by rw [CharSet.contains_singleton, beq_self_eq_true])

/-- Patterns one after the other match as the first one does, and then the others. -/
theorem matches_sequence_cons {p : Pattern} {ps : List Pattern} :
    Matches text (sequence (p :: ps)) i k ↔
      ∃ j, Matches text p i j ∧ Matches text (sequence ps) j k := by
  cases ps with
  | nil =>
    constructor
    · exact fun h => ⟨k, h, .empty h.bounds.2⟩
    · rintro ⟨j, first, ⟨⟩⟩
      exact first
  | cons q rest =>
    constructor
    · rintro ⟨⟩
      next first others => exact ⟨_, first, others⟩
    · rintro ⟨j, first, others⟩
      exact .seq first others

/-- A choice matches what one of the patterns matches. -/
theorem matches_choice_iff {p : Pattern} {ps : List Pattern} :
    Matches text (choice p ps) i j ↔ ∃ q ∈ p :: ps, Matches text q i j := by
  induction ps generalizing p with
  | nil => simp [choice]
  | cons q rest ih =>
    rw [choice, List.exists_mem_cons_iff, ← ih]
    constructor
    · rintro ⟨⟩
      · next h => exact Or.inl h
      · next h => exact Or.inr h
    · exact fun h => h.elim .left .right

/-- The pattern for a text matches where the text stands. -/
theorem matches_literal_iff {cs : List Char} (inside : i ≤ text.length) :
    Matches text (literal cs) i j ↔ cs <+: text.drop i ∧ j = i + cs.length := by
  induction cs generalizing i with
  | nil =>
    constructor
    · rintro ⟨⟩
      exact ⟨List.nil_prefix, rfl⟩
    · rintro ⟨-, rfl⟩
      exact .empty inside
  | cons c rest ih =>
    rw [literal, List.map_cons, matches_sequence_cons]
    constructor
    · rintro ⟨l, first, others⟩
      obtain ⟨read, rfl⟩ := matches_singleton_iff.mp first
      obtain ⟨behind, rfl⟩ := (ih first.bounds.2).mp others
      obtain ⟨here, rfl⟩ := List.getElem?_eq_some_iff.mp read
      rw [List.drop_eq_getElem_cons here, List.cons_prefix_cons]
      exact ⟨⟨rfl, behind⟩, by rw [List.length_cons]; omega⟩
    · rintro ⟨stands, rfl⟩
      have here : i < text.length := by
        have long := stands.length_le
        rw [List.length_drop, List.length_cons] at long
        omega
      rw [List.drop_eq_getElem_cons here, List.cons_prefix_cons] at stands
      obtain ⟨rfl, behind⟩ := stands
      refine ⟨i + 1, matches_singleton_iff.mpr ⟨List.getElem?_eq_getElem here, rfl⟩, ?_⟩
      exact (ih here).mpr ⟨behind, by rw [List.length_cons]; omega⟩

/-- The pattern for a text matches the whole of this text and of no other. -/
theorem matches_whole_literal_iff {cs : List Char} :
    Matches text (literal cs) 0 text.length ↔ text = cs := by
  rw [matches_literal_iff (Nat.zero_le _), List.drop_zero, Nat.zero_add]
  constructor
  · rintro ⟨start, length⟩
    exact (start.eq_of_length length.symm).symm
  · rintro rfl
    exact ⟨List.prefix_refl text, rfl⟩

/-- A choice between texts matches the whole of these texts and of no other. -/
theorem matches_whole_alternatives_iff {value other : String} {values : List String} :
    Matches other.toList (choice (literal value.toList) (values.map fun v => literal v.toList)) 0
        other.toList.length ↔ other ∈ value :: values := by
  rw [matches_choice_iff, ← List.map_cons (f := fun v : String => literal v.toList)]
  constructor
  · rintro ⟨q, hq, whole⟩
    obtain ⟨v, hv, rfl⟩ := List.mem_map.mp hq
    rwa [String.toList_inj.mp (matches_whole_literal_iff.mp whole)]
  · intro listed
    exact ⟨_, List.mem_map_of_mem listed, matches_whole_literal_iff.mpr rfl⟩

end SelectorGuard.Pattern
