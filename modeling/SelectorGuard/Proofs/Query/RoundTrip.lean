import SelectorGuard.Proofs.Json.Layout
import SelectorGuard.Proofs.Query.Reread

/-!
# Expressions survive their JSON form

Two things alone can keep an expression from being read back from its text: objects and arrays that
stand in each other deeper than the reader goes, and numbers that are not read back on their own.
The rest of an expression never fails, and both layouts of the text behave alike.
-/

namespace SelectorGuard

/-! ### The numbers in the document of an expression -/

/-- The numbers of members one after the other. -/
@[simp] theorem Json.membersNumerals_append (members more : List (String × Json)) :
    membersNumerals (members ++ more) = membersNumerals members ++ membersNumerals more := by
  induction members with
  | nil => rfl
  | cons m rest ih =>
    obtain ⟨key, j⟩ := m
    rw [List.cons_append, membersNumerals, membersNumerals, ih, List.append_assoc]

/-- There are no numbers in items without any. -/
theorem Json.itemsNumerals_eq_nil {items : List Json} (h : ∀ j ∈ items, j.numerals = []) :
    itemsNumerals items = [] := by
  induction items with
  | nil => rfl
  | cons j rest ih =>
    rw [itemsNumerals, h j List.mem_cons_self, ih fun i hi => h i (List.mem_cons_of_mem j hi)]
    rfl

/-- There are no numbers in texts. -/
@[simp] theorem Json.numerals_ofStrings (texts : List String) :
    (ofStrings texts).numerals = [] := by
  rw [ofStrings, numerals]
  refine itemsNumerals_eq_nil fun j hj => ?_
  obtain ⟨s, -, rfl⟩ := List.mem_map.mp hj
  rfl

/-- There are no numbers in matchers. -/
@[simp] theorem Matcher.itemsNumerals_map_toJson (ms : List Matcher) :
    Json.itemsNumerals (ms.map Matcher.toJson) = [] := by
  refine Json.itemsNumerals_eq_nil fun j hj => ?_
  obtain ⟨m, -, rfl⟩ := List.mem_map.mp hj
  rfl

/-- There are no numbers in a vector matching. -/
theorem VectorMatching.numerals_toJson (v : VectorMatching) : v.toJson.numerals = [] := by
  simp [toJson, Json.numerals, Json.membersNumerals]

/-- There are two numbers in a duration. -/
theorem Duration.numerals_toJson (d : Duration) :
    d.toJson.numerals = [.ofNat d.seconds.toNat, .ofNat d.nanos.val] :=
  rfl

/-- There are no numbers in a field whose values have none. -/
theorem Json.membersNumerals_optionalMember_eq_nil {α : Type} {write : α → Json}
    (h : ∀ a, (write a).numerals = []) (name : String) (value : Option α) :
    membersNumerals (optionalMember name (value.map write)) = [] := by
  cases value with
  | none => rfl
  | some a =>
    rw [Option.map_some, optionalMember, membersNumerals, h, membersNumerals, List.append_nil]

variable {P : Numeral → Prop}

/-- The numbers of a duration are words. -/
theorem Duration.forall_numerals (words : ∀ k ≤ Numeral.maxWord, P (.ofNat k)) (d : Duration) :
    ∀ n ∈ d.toJson.numerals, P n := by
  have hs := d.seconds.toNat_lt
  have hn := d.nanos.isLt
  have seconds := words d.seconds.toNat (by simp only [Numeral.maxWord]; omega)
  have nanos := words d.nanos.val (by simp only [Numeral.maxWord]; omega)
  rw [numerals_toJson]
  exact List.forall_mem_cons.mpr ⟨seconds, List.forall_mem_singleton.mpr nanos⟩

/-- The numbers of a duration that may be missing are words. -/
theorem Duration.forall_optional_numerals (words : ∀ k ≤ Numeral.maxWord, P (.ofNat k))
    (name : String) (d : Option Duration) :
    ∀ n ∈ Json.membersNumerals (optionalMember name (d.map toJson)), P n := by
  cases d with
  | none => exact nofun
  | some d =>
    rw [Option.map_some, optionalMember, Json.membersNumerals, Json.membersNumerals,
      List.append_nil]
    exact d.forall_numerals words

namespace Expr

/-- The numbers of a node are those of its fields. -/
theorem numerals_node (kind : Kind) (fields : List (String × Json)) :
    (node kind fields).numerals = Json.membersNumerals fields := by
  rw [node, Json.numerals, Json.membersNumerals, Json.numerals, List.nil_append]

mutual

/-- A property of all words and of the numerals of all numbers of an expression is one of all
numbers in what the expression is written as. -/
theorem forall_numerals_toJson (words : ∀ k ≤ Numeral.maxWord, P (.ofNat k)) : ∀ e : Expr,
    (∀ x ∈ numbers e, ∀ n ∈ Numeral.ofFloat? x, P n) → ∀ n ∈ (toJson e).numerals, P n
  | aggregate op body param grouping without, h => by
    have parts : (toJson (aggregate op body param grouping without)).numerals =
        (toJson body).numerals ++
          Json.membersNumerals (optionalMember "param" (optionToJson param)) := by
      simp [toJson, numerals_node, Json.membersNumerals, Json.numerals]
    rw [numbers, List.forall_mem_append] at h
    rw [parts, List.forall_mem_append]
    exact ⟨forall_numerals_toJson words body h.1, forall_numerals_optionToJson words param h.2⟩
  | binary op lhs rhs returnBool matching, h => by
    have parts : (toJson (binary op lhs rhs returnBool matching)).numerals =
        (toJson lhs).numerals ++ (toJson rhs).numerals := by
      simp [toJson, numerals_node, Json.membersNumerals, Json.numerals,
        Json.membersNumerals_optionalMember_eq_nil VectorMatching.numerals_toJson]
    rw [numbers, List.forall_mem_append] at h
    rw [parts, List.forall_mem_append]
    exact ⟨forall_numerals_toJson words lhs h.1, forall_numerals_toJson words rhs h.2⟩
  | call func args, h => by
    have parts : (toJson (call func args)).numerals = Json.itemsNumerals (listToJson args) := by
      simp [toJson, numerals_node, Json.membersNumerals, Json.numerals]
    rw [parts]
    exact forall_numerals_listToJson words args h
  | subquery body range step offset, h => by
    have parts : (toJson (subquery body range step offset)).numerals = (toJson body).numerals ++
        (range.toJson.numerals ++
          (Json.membersNumerals (optionalMember "step" (step.map Duration.toJson)) ++
            Json.membersNumerals (optionalMember "offset" (offset.map Duration.toJson)))) := by
      simp [toJson, numerals_node, Json.membersNumerals]
    rw [parts, List.forall_mem_append, List.forall_mem_append, List.forall_mem_append]
    exact ⟨forall_numerals_toJson words body h, range.forall_numerals words,
      Duration.forall_optional_numerals words _ _, Duration.forall_optional_numerals words _ _⟩
  | paren body, h => by
    have parts : (toJson (paren body)).numerals = (toJson body).numerals := by
      simp [toJson, numerals_node, Json.membersNumerals]
    rw [parts]
    exact forall_numerals_toJson words body h
  | unary op body, h => by
    have parts : (toJson (unary op body)).numerals = (toJson body).numerals := by
      simp [toJson, numerals_node, Json.membersNumerals, Json.numerals]
    rw [parts]
    exact forall_numerals_toJson words body h
  | number value, h => by
    have parts : (toJson (number value)).numerals = (Json.ofFloat value).numerals := by
      simp [toJson, numerals_node, Json.membersNumerals]
    have hv := h value List.mem_cons_self
    rw [parts, Json.ofFloat]
    split
    · next n eq => exact List.forall_mem_singleton.mpr (hv n eq)
    · exact nofun
  | text value, _ => nofun
  | matrix body range, h => by
    have parts : (toJson (matrix body range)).numerals =
        (toJson body).numerals ++ range.toJson.numerals := by
      simp [toJson, numerals_node, Json.membersNumerals]
    rw [parts, List.forall_mem_append]
    exact ⟨forall_numerals_toJson words body h, range.forall_numerals words⟩
  | vector s, h => by
    have parts : (toJson (vector s)).numerals =
        Json.membersNumerals (optionalMember "offset" (s.offset.map Duration.toJson)) := by
      simp [toJson, numerals_node, Json.membersNumerals, Json.numerals,
        Json.membersNumerals_optionalMember_eq_nil
          (fun _ => rfl : ∀ name, (Json.string name).numerals = [])]
    rw [parts]
    exact Duration.forall_optional_numerals words _ _
  | extension kind args, h => by
    have parts : (toJson (extension kind args)).numerals =
        Json.itemsNumerals (listToJson args) := by
      simp [toJson, numerals_node, Json.membersNumerals, Json.numerals]
    rw [parts]
    exact forall_numerals_listToJson words args h

/-- A property of the numbers of expressions, one after the other. -/
theorem forall_numerals_listToJson (words : ∀ k ≤ Numeral.maxWord, P (.ofNat k)) :
    ∀ es : List Expr,
    (∀ x ∈ listNumbers es, ∀ n ∈ Numeral.ofFloat? x, P n) →
      ∀ n ∈ Json.itemsNumerals (listToJson es), P n
  | [], _ => nofun
  | e :: rest, h => by
    rw [listNumbers, List.forall_mem_append] at h
    rw [listToJson, Json.itemsNumerals, List.forall_mem_append]
    exact ⟨forall_numerals_toJson words e h.1, forall_numerals_listToJson words rest h.2⟩

/-- A property of the numbers of a parameter that may be missing. -/
theorem forall_numerals_optionToJson (words : ∀ k ≤ Numeral.maxWord, P (.ofNat k)) :
    ∀ e : Option Expr,
    (∀ x ∈ optionNumbers e, ∀ n ∈ Numeral.ofFloat? x, P n) →
      ∀ n ∈ Json.membersNumerals (optionalMember "param" (optionToJson e)), P n
  | none, _ => nofun
  | some e, h => by
    rw [optionToJson, optionalMember, Json.membersNumerals, Json.membersNumerals, List.append_nil]
    exact forall_numerals_toJson words e h

end

end Expr

/-! ### Numbers on their own -/

/-- The text of a document is read as the document, just if this fits. -/
theorem Json.read?_render {j : Json} (h : ∀ n ∈ j.numerals, n.WellFormed) :
    read? j.render = if Fits depthLimit j then some j else none := by
  rw [read?, readPrefix_render h]
  split <;> rfl

/-- A number that is not in range is not read. -/
theorem Numeral.toFloat?_eq_none {n : Numeral} (h : n.inRange = false) : n.toFloat? = none := by
  rw [inRange, Bool.or_eq_false_iff, Option.isSome_eq_false_iff, Option.isNone_iff_eq_none] at h
  simpa using h.2

/-- What is read from the text of a number is read from its numeral. -/
theorem Json.read?_render_ofFloat (x : Float) :
    (read? (ofFloat x).render).bind float? = Numeral.reread? x := by
  unfold ofFloat Numeral.reread?
  cases written : Numeral.ofFloat? x with
  | none =>
    have sound : ∀ n ∈ Json.null.numerals, n.WellFormed := nofun
    dsimp only
    rw [read?_render sound, if_pos (fits_of_bare rfl rfl _)]
    rfl
  | some n =>
    have range : Fits depthLimit (.number n) ↔ n.inRange = true := by
      simp [Fits, depth, numerals]
    have sound : ∀ m ∈ (Json.number n).numerals, m.WellFormed :=
      List.forall_mem_singleton.mpr (Numeral.wellFormed_of_ofFloat? written)
    dsimp only [Option.bind]
    rw [read?_render sound]
    by_cases fits : Fits depthLimit (.number n)
    · rw [if_pos fits]
      rfl
    · have out := Numeral.toFloat?_eq_none (Bool.eq_false_iff.mpr (mt range.mpr fits))
      rw [if_neg fits, out]

namespace Expr

/-- A number survives on its own if it is finite and what is read from its text is equal to it. -/
def Survives (x : Float) : Prop :=
  x.isFinite = true ∧
    ∃ y, (Json.read? (Json.ofFloat x).render).bind Json.float? = some y ∧ (x == y) = true

/-- A number survives on its own just if it is kept by its numeral. -/
theorem survives_iff_kept (x : Float) : Survives x ↔ Kept x := by
  rw [Survives, Json.read?_render_ofFloat, Kept]
  refine and_iff_right_of_imp ?_
  rintro ⟨y, read, -⟩
  obtain ⟨n, written, -⟩ := Option.bind_eq_some_iff.mp read
  rw [← Numeral.isSome_ofFloat?_iff, written]
  rfl

instance : DecidablePred Survives := fun x =>
  decidable_of_iff (((Numeral.reread? x).any fun y => x == y) = true) <| by
    rw [survives_iff_kept, Kept, Option.any_eq_true]

-- a finite number that the quick way reads as its neighbour does not survive
example : Survives 60 ∧ ¬ Survives 1e-23 ∧ ¬ Survives (1 / 0) := by decide +kernel

/-! ### The text of an expression -/

/-- A text that is read as a document and only space behind it gives the expression of the
document. -/
theorem ofText_eq_ok_iff_of_space {text : String} {j : Json} {left : List Char} {fits : Prop}
    [Decidable fits] (space : Json.isEnd left = true)
    (read : Json.readPrefix text.toList = if fits then some (j, left) else none) {e : Expr} :
    ofText text = .ok e ↔ fits ∧ ofJson j = .ok e := by
  rw [ofText, read]
  by_cases h : fits
  · simp only [h, space, if_true, true_and]
    cases ofJson j with
    | ok d => exact Iff.rfl
    | error fault => exact Iff.rfl
  · simp only [h, if_false, false_and, iff_false]
    exact nofun

/-- A text that is read as a document and nothing behind it gives the expression of the document. -/
theorem ofText_eq_ok_iff {text : String} {j : Json} {fits : Prop} [Decidable fits]
    (read : Json.readPrefix text.toList = if fits then some (j, []) else none) {e : Expr} :
    ofText text = .ok e ↔ fits ∧ ofJson j = .ok e :=
  ofText_eq_ok_iff_of_space rfl read

/-- The document of an expression gives the expression with every number read from its numeral. -/
theorem ofJson_toJson_eq_ok_iff {e e' : Expr} :
    ofJson e.toJson = .ok e' ↔ reread? e = some e' := by
  rw [ofJson, content_toJson]
  cases reread? e with
  | none => exact iff_of_false nofun nofun
  | some d =>
    simp only [Option.some.injEq]
    exact Except.ok.injEq d e' ▸ Iff.rfl

/-- Where all numbers are kept, only the depth of its document can keep an expression from being
read. -/
theorem fits_toJson_iff_of_kept {e : Expr} (h : ∀ x ∈ e.numbers, Kept x) :
    Json.Fits Json.depthLimit e.toJson ↔ e.toJson.depth ≤ Json.depthLimit := by
  refine and_iff_left ?_
  refine forall_numerals_toJson (fun k hk => ?_) e fun x hx n hn => ?_
  · rw [Numeral.inRange, Numeral.toWord?_ofNat hk]
    rfl
  · obtain ⟨y, read, -⟩ := h x hx
    rw [Numeral.reread?, Option.mem_def.mp hn, Option.bind_some] at read
    rw [Numeral.inRange, read]
    exact Bool.or_true _

/-- The numbers in the document of an expression are well formed. -/
theorem wellFormed_of_mem_numerals_toJson (e : Expr) : ∀ n ∈ e.toJson.numerals, n.WellFormed :=
  forall_numerals_toJson (fun k _ => Numeral.wellFormed_ofNat k) e fun _ _ _ =>
    Numeral.wellFormed_of_ofFloat?

/-- An expression is read back from a text of its document just if the document is not too deep and
all its numbers survive on their own. -/
theorem exists_ofText_same_iff {text : String} {e : Expr}
    (read : Json.readPrefix text.toList =
      if Json.Fits Json.depthLimit e.toJson then some (e.toJson, []) else none) :
    (∃ e', ofText text = .ok e' ∧ e.same e' = true) ↔
      e.toJson.depth ≤ Json.depthLimit ∧ ∀ x ∈ e.numbers, Survives x := by
  simp only [survives_iff_kept, ofText_eq_ok_iff read, ofJson_toJson_eq_ok_iff]
  constructor
  · rintro ⟨e', ⟨fits, reread⟩, same⟩
    exact ⟨fits.1, (exists_reread_same_iff e).mp ⟨e', reread, same⟩⟩
  · rintro ⟨shallow, kept⟩
    obtain ⟨e', reread, same⟩ := (exists_reread_same_iff e).mpr kept
    exact ⟨e', ⟨(fits_toJson_iff_of_kept kept).mpr shallow, reread⟩, same⟩

/-- An expression, however it is built, is read back from its text in one line as an expression that
is the same, just if arrays and objects do not stand deeper in each other than the reader goes and
every number survives on its own. The text over several lines is then read back in the same way, and
otherwise neither is. -/
theorem ofText_render_same_iff_shallow_and_survives (e : Expr) :
    ((∃ e', ofText e.toJson.render = .ok e' ∧ e.same e' = true) ↔
      e.toJson.depth ≤ Json.depthLimit ∧ ∀ x ∈ e.numbers, Survives x) ∧
    ((∃ e', ofText e.toJson.renderPretty = .ok e' ∧ e.same e' = true) ↔
      e.toJson.depth ≤ Json.depthLimit ∧ ∀ x ∈ e.numbers, Survives x) :=
  ⟨exists_ofText_same_iff (Json.readPrefix_render e.wellFormed_of_mem_numerals_toJson),
    exists_ofText_same_iff (Json.readPrefix_renderPretty e.wellFormed_of_mem_numerals_toJson)⟩

end Expr

end SelectorGuard
