import SelectorGuard.Proofs.Query.RoundTrip

/-!
# What has been read can be written and read again

Whatever document an expression has been read from, the document that it is written as has at most
one level more: lists that may be left out are written, also those of a node at the greatest depth.
So an expression that has been read can be written and read again, unless it comes from a document
that already goes as deep as the reader does.
-/

namespace SelectorGuard

namespace Json

/-- The depth of members one after the other. -/
theorem membersDepth_append (members more : List (String × Json)) :
    membersDepth (members ++ more) = max (membersDepth members) (membersDepth more) := by
  induction members with
  | nil => simp [membersDepth]
  | cons m rest ih =>
    obtain ⟨key, j⟩ := m
    rw [List.cons_append, membersDepth, membersDepth, ih, Nat.max_assoc]

/-- Items are as deep as a bound if each of them is. -/
theorem itemsDepth_le_of_forall {items : List Json} {bound : Nat}
    (h : ∀ j ∈ items, j.depth ≤ bound) : itemsDepth items ≤ bound := by
  induction items with
  | nil => exact Nat.zero_le bound
  | cons j rest ih =>
    rw [itemsDepth]
    exact Nat.max_le.mpr ⟨h j List.mem_cons_self, ih fun i hi => h i (List.mem_cons_of_mem j hi)⟩

/-- A list of texts has one level. -/
theorem depth_ofStrings (texts : List String) : (ofStrings texts).depth = 1 := by
  have flat : itemsDepth (texts.map .string) ≤ 0 := by
    refine itemsDepth_le_of_forall fun j hj => ?_
    obtain ⟨s, -, rfl⟩ := List.mem_map.mp hj
    exact Nat.le_refl 0
  rw [ofStrings, depth]
  omega

end Json

/-- A duration has one level. -/
theorem Duration.depth_toJson (d : Duration) : d.toJson.depth = 1 :=
  rfl

/-- A vector matching has two levels. -/
theorem VectorMatching.depth_toJson (v : VectorMatching) : v.toJson.depth = 2 := by
  simp [toJson, Json.depth, Json.membersDepth, Json.depth_ofStrings]

/-- A list of matchers has two levels at most. -/
theorem Matcher.depth_array_le (ms : List Matcher) :
    (Json.array (ms.map Matcher.toJson)).depth ≤ 2 := by
  have flat : Json.itemsDepth (ms.map Matcher.toJson) ≤ 1 := by
    refine Json.itemsDepth_le_of_forall fun j hj => ?_
    obtain ⟨m, -, rfl⟩ := List.mem_map.mp hj
    exact Nat.le_refl 1
  rw [Json.depth]
  omega

namespace Expr

/-- The levels of what the content of a field is written as. -/
def Content.levels : Content → Nat
  | expr e => e.toJson.depth
  | exprs es => (Json.array (listToJson es)).depth
  | texts ss => (Json.ofStrings ss).depth
  | duration d => d.toJson.depth
  | matching v => v.toJson.depth
  | matchers ms => (Json.array (ms.map Matcher.toJson)).depth
  | nothing | text _ | flag _ | number _ | aggregator _ | binaryOperator _ | unaryOperator _ => 0

/-- A node has one level more than its fields. -/
theorem depth_node (kind : Kind) (fields : List (String × Json)) :
    (node kind fields).depth = Json.membersDepth fields + 1 := by
  rw [node, Json.depth, Json.membersDepth, Json.depth, Nat.zero_max]

open DecodeFault (require)

variable {bound : Nat}

/-- A field that may be missing is within a bound if it is so where it is there. -/
theorem membersDepth_optionalMember_le (name : String) {value : Option Json}
    (h : ∀ j ∈ value, j.depth ≤ bound) :
    Json.membersDepth (optionalMember name value) ≤ bound := by
  cases value with
  | none => exact Nat.zero_le bound
  | some j =>
    rw [optionalMember, Json.membersDepth, Json.membersDepth, Nat.max_zero]
    exact h j rfl

/-- An expression that may be missing is written within the levels of its content. -/
theorem levels_of_expr? {c : Content} {p : Option Expr} (h : c.expr? = some p)
    (hc : c.levels ≤ bound) : ∀ j ∈ optionToJson p, j.depth ≤ bound := by
  cases c <;> cases h
  · exact nofun
  · rintro _ ⟨⟩
    exact hc

/-- A duration that may be missing is written within the levels of its content. -/
theorem levels_of_duration? {c : Content} {d : Option Duration} (h : c.duration? = some d)
    (hc : c.levels ≤ bound) : ∀ j ∈ d.map Duration.toJson, j.depth ≤ bound := by
  cases c <;> cases h
  · exact nofun
  · rintro _ ⟨⟩
    exact hc

/-- A vector matching that may be missing is written within the levels of its content. -/
theorem levels_of_matching? {c : Content} {v : Option VectorMatching} (h : c.matching? = some v)
    (hc : c.levels ≤ bound) : ∀ j ∈ v.map VectorMatching.toJson, j.depth ≤ bound := by
  cases c <;> cases h
  · exact nofun
  · rintro _ ⟨⟩
    exact hc

/-! ### What a node is made of -/

/-- What a node is assembled from is one level below it. -/
theorem depth_le_of_assemble? {kind : Kind} {contents : List Content} {e : Expr}
    (h : assemble? kind contents = some e) (bounded : ∀ c ∈ contents, c.levels ≤ bound) :
    e.toJson.depth ≤ bound + 1 := by
  unfold assemble? at h
  split at h <;> simp only [List.forall_mem_cons, Content.levels] at bounded
  · next op body param grouping without =>
    obtain ⟨p, hp, rfl⟩ := Option.map_eq_some_iff.mp h
    obtain ⟨-, hbody, hparam, hgrouping, -⟩ := bounded
    have optional := membersDepth_optionalMember_le "param" (levels_of_expr? hp hparam)
    simp only [toJson, depth_node, List.cons_append, List.nil_append, Json.membersDepth_append,
      Json.membersDepth, Json.depth]
    omega
  · next op lhs rhs returnBool matching =>
    obtain ⟨v, hv, rfl⟩ := Option.map_eq_some_iff.mp h
    obtain ⟨-, hlhs, hrhs, -, hmatching, -⟩ := bounded
    have optional := membersDepth_optionalMember_le "matching" (levels_of_matching? hv hmatching)
    simp only [toJson, depth_node, List.cons_append, List.nil_append,
      Json.membersDepth, Json.depth]
    omega
  · next func args =>
    cases h
    obtain ⟨-, hargs, -⟩ := bounded
    simp only [toJson, depth_node, Json.membersDepth] at hargs ⊢
    simp only [Json.depth] at hargs ⊢
    omega
  · next body range step offset =>
    obtain ⟨s, hs, h⟩ := Option.bind_eq_some_iff.mp h
    obtain ⟨o, ho, rfl⟩ := Option.map_eq_some_iff.mp h
    obtain ⟨hbody, hrange, hstep, hoffset, -⟩ := bounded
    have first := membersDepth_optionalMember_le "step" (levels_of_duration? hs hstep)
    have second := membersDepth_optionalMember_le "offset" (levels_of_duration? ho hoffset)
    simp only [toJson, depth_node, List.cons_append, List.nil_append, Json.membersDepth_append,
      Json.membersDepth]
    omega
  · next body =>
    cases h
    obtain ⟨hbody, -⟩ := bounded
    simp only [toJson, depth_node, Json.membersDepth]
    omega
  · next op body =>
    cases h
    obtain ⟨-, hbody, -⟩ := bounded
    simp only [toJson, depth_node, Json.membersDepth, Json.depth]
    omega
  · next value =>
    cases h
    have flat : (Json.ofFloat value).depth = 0 := by
      unfold Json.ofFloat
      split <;> rfl
    simp only [toJson, depth_node, Json.membersDepth, flat]
    omega
  · next value =>
    cases h
    simp only [toJson, depth_node, Json.membersDepth, Json.depth]
    omega
  · next body range =>
    cases h
    obtain ⟨hbody, hrange, -⟩ := bounded
    simp only [toJson, depth_node, Json.membersDepth]
    omega
  · next name ms offset =>
    obtain ⟨n, hn, h⟩ := Option.bind_eq_some_iff.mp h
    obtain ⟨o, ho, rfl⟩ := Option.map_eq_some_iff.mp h
    obtain ⟨-, hms, hoffset, -⟩ := bounded
    have first : Json.membersDepth (optionalMember "name" (n.map .string)) ≤ 0 := by
      cases n <;> exact Nat.le_refl 0
    have second := membersDepth_optionalMember_le "offset" (levels_of_duration? ho hoffset)
    simp only [toJson, depth_node, Json.membersDepth_append, Json.membersDepth]
    omega
  · next func args =>
    cases h
    obtain ⟨-, hargs, -⟩ := bounded
    simp only [toJson, depth_node, Json.membersDepth] at hargs ⊢
    simp only [Json.depth] at hargs ⊢
    omega
  · cases h

/-- A field that is not there has at most one level. -/
theorem levels_le_of_absent? {f : Field} {c : Content} (h : f.absent? = some c) : c.levels ≤ 1 := by
  unfold Field.absent? at h
  split at h <;> cases h <;> decide

/-- A node is assembled from what has been found, and from what fields hold that are not there. -/
theorem exists_assemble?_of_finish {kind : Kind} {found : List (String × Content)} {c : Content}
    (h : finish kind found = .ok c) :
    ∃ contents e, assemble? kind contents = some e ∧ c = .expr e ∧
      ∀ d ∈ contents, (∃ name, (name, d) ∈ found) ∨ ∃ f : Field, f.absent? = some d := by
  obtain ⟨contents, all, given⟩ :=
    Option.bind_eq_some_iff.mp (DecodeFault.require_eq_ok_iff.mp h)
  obtain ⟨e, made, given⟩ := Option.bind_eq_some_iff.mp given
  cases given
  refine ⟨contents, e, made, rfl, fun d hd => ?_⟩
  obtain ⟨f, -, hf⟩ := exists_of_mem_mapM_some all d hd
  cases hl : found.lookup f.name with
  | none =>
    rw [hl] at hf
    exact .inr ⟨f, hf⟩
  | some d =>
    rw [hl] at hf
    cases hf
    obtain ⟨l1, l2, rfl, -⟩ := List.lookup_eq_some_iff.mp hl
    exact .inl ⟨f.name, by simp⟩

/-- A node has one level more than the fields that are there, which may be written with a level
where they are missing. -/
theorem levels_le_of_finish {kind : Kind} {found : List (String × Content)} {c : Content}
    (h : finish kind found = .ok c) (bounded : ∀ m ∈ found, m.2.levels ≤ bound) (pos : 0 < bound) :
    c.levels ≤ bound + 1 := by
  obtain ⟨contents, e, made, rfl, origin⟩ := exists_assemble?_of_finish h
  refine depth_le_of_assemble? made fun d hd => ?_
  rcases origin d hd with ⟨name, there⟩ | ⟨f, absent⟩
  · exact bounded (name, d) there
  · exact Nat.le_trans (levels_le_of_absent? absent) pos

/-! ### What a document gives -/

/-- A vector matching is given by a document with a level. -/
theorem VectorMatching.pos_depth_of_ofJson? {j : Json} {v : VectorMatching}
    (h : VectorMatching.ofJson? j = some v) : 0 < j.depth := by
  obtain ⟨fields, hf, -⟩ := Option.bind_eq_some_iff.mp h
  cases j with
  | object => simp [Json.depth]
  | array => simp [Json.depth]
  | _ => cases hf

/-- Something that is taken is there. -/
theorem of_require_map_eq_ok {α β : Type} {a? : Option α} {f : α → β} {b : β}
    (h : (require a?).map f = .ok b) : ∃ a, a? = some a ∧ f a = b := by
  obtain ⟨a, given, made⟩ := bind_eq_ok_iff.mp h
  exact ⟨a, DecodeFault.require_eq_ok_iff.mp given, Except.ok.inj made⟩

/-- What a document gives without expressions in it has at most one level more than the document. -/
theorem levels_le_of_leaf {shape : Shape} {j : Json} {c : Content} (h : shape.leaf j = .ok c) :
    c.levels ≤ j.depth + 1 := by
  cases shape with
  | expr => cases h
  | exprs => cases h
  | texts =>
    obtain ⟨ss, -, rfl⟩ := of_require_map_eq_ok h
    rw [Content.levels, Json.depth_ofStrings]
    omega
  | duration =>
    obtain ⟨d, -, rfl⟩ := of_require_map_eq_ok h
    rw [Content.levels, Duration.depth_toJson]
    omega
  | matching =>
    obtain ⟨v, given, rfl⟩ := of_require_map_eq_ok h
    have pos := VectorMatching.pos_depth_of_ofJson? given
    rw [Content.levels, VectorMatching.depth_toJson]
    omega
  | matchers =>
    cases j with
    | array items =>
      obtain ⟨ms, -, h⟩ := bind_eq_ok_iff.mp h
      cases h
      have flat := Matcher.depth_array_le ms
      have pos : 0 < (Json.array items).depth := Nat.succ_pos _
      rw [Content.levels]
      omega
    | _ => cases h
  | _ =>
    obtain ⟨_, -, rfl⟩ := of_require_map_eq_ok h
    exact Nat.zero_le _

/-- The same as the content of a field. -/
theorem levels_le_of_content_leaf {nested : Bool} {shape : Shape} {j : Json} {c : Content}
    (leaf : shape ≠ .expr ∧ shape ≠ .exprs) (h : content nested shape j = .ok c) :
    c.levels ≤ j.depth + 1 :=
  levels_le_of_leaf (content_of_leaf leaf nested j ▸ h)

/-- A member is passed over, or it has a content, which is nothing for null in a field that may be
missing. -/
theorem memberContents_cons_eq_ok {fields : List Field} {seen : List String} {name : String}
    {j : Json} {rest : List (String × Json)} {found : List (String × Content)}
    (h : memberContents fields seen ((name, j) :: rest) = .ok found) :
    memberContents fields seen rest = .ok found ∨
      ∃ c others, (c = .nothing ∨ ∃ shape, content true shape j = .ok c) ∧
        memberContents fields (name :: seen) rest = .ok others ∧ found = (name, c) :: others := by
  cases given : fields.find? fun f => f.name == name with
  | none =>
    rw [memberContents_cons_of_unknown given] at h
    exact .inl h
  | some f =>
    obtain ⟨-, c, read, others, behind, rfl⟩ := (memberContents_cons_of_known given).mp h
    exact .inr ⟨c, others, f.content_of_read read, behind, rfl⟩

/-- An item that gives a field has a content, which is nothing for null in a field that may be
missing. -/
theorem itemContents_cons_eq_ok {f : Field} {fields : List Field} {j : Json} {rest : List Json}
    {found : List (String × Content)} (h : itemContents (f :: fields) (j :: rest) = .ok found) :
    ∃ c others, (c = .nothing ∨ ∃ shape, content true shape j = .ok c) ∧
      itemContents fields rest = .ok others ∧ found = (f.name, c) :: others := by
  rw [itemContents_cons] at h
  obtain ⟨c, read, h⟩ := bind_eq_ok_iff.mp h
  obtain ⟨others, behind, h⟩ := bind_eq_ok_iff.mp h
  cases h
  exact ⟨c, others, f.content_of_read read, behind, rfl⟩

mutual

/-- What a document gives has at most one level more than the document. -/
theorem levels_le_of_content {nested : Bool} {shape : Shape} : ∀ {j : Json} {c : Content},
    content nested shape j = .ok c → c.levels ≤ j.depth + 1
  | .object members, c, h => by
    cases shape with
    | expr =>
      rw [content] at h
      obtain ⟨kind, -, h⟩ := bind_eq_ok_iff.mp h
      obtain ⟨found, read, h⟩ := bind_eq_ok_iff.mp h
      rw [Json.depth]
      exact levels_le_of_finish h (levels_le_of_memberContents read) (Nat.succ_pos _)
    | exprs => cases h
    | _ => exact levels_le_of_content_leaf (by decide) h
  | .array [], c, h => by
    cases shape with
    | expr => cases h
    | exprs =>
      cases h
      exact Nat.le_succ 1
    | _ => exact levels_le_of_content_leaf (by decide) h
  | .array (tag :: rest), c, h => by
    cases shape with
    | expr =>
      rw [content] at h
      obtain ⟨kind, -, h⟩ := bind_eq_ok_iff.mp h
      obtain ⟨found, read, h⟩ := bind_eq_ok_iff.mp h
      have levels := levels_le_of_finish h (levels_le_of_itemContents read) (Nat.succ_pos _)
      rw [Json.depth, Json.itemsDepth]
      omega
    | exprs =>
      rw [content] at h
      obtain ⟨es, read, h⟩ := bind_eq_ok_iff.mp h
      cases h
      have items := itemsDepth_le_of_exprContents read
      rw [Content.levels, Json.depth, Json.depth]
      omega
    | _ => exact levels_le_of_content_leaf (by decide) h
  | .null, _, h => levels_le_of_leaf (j := .null) h
  | .bool b, _, h => levels_le_of_leaf (j := .bool b) h
  | .number n, _, h => levels_le_of_leaf (j := .number n) h
  | .string s, _, h => levels_le_of_leaf (j := .string s) h

/-- What the members of an object give has at most one level more than they have. -/
theorem levels_le_of_memberContents {fields : List Field} : ∀ {seen : List String}
    {members : List (String × Json)} {found : List (String × Content)},
    memberContents fields seen members = .ok found →
      ∀ m ∈ found, m.2.levels ≤ Json.membersDepth members + 1
  | seen, [], found, h => by
    cases h
    exact nofun
  | seen, (name, j) :: rest, found, h => by
    rw [Json.membersDepth]
    rcases memberContents_cons_eq_ok h with read | ⟨c, others, given, read, rfl⟩
    · intro m hm
      have levels := levels_le_of_memberContents read m hm
      omega
    · refine List.forall_mem_cons.mpr ⟨?_, fun m hm => ?_⟩
      · rcases given with rfl | ⟨shape, given⟩
        · exact Nat.zero_le _
        · have levels := levels_le_of_content given
          dsimp only
          omega
      · have levels := levels_le_of_memberContents read m hm
        omega

/-- What the items of an array give has at most one level more than they have. -/
theorem levels_le_of_itemContents : ∀ {fields : List Field} {items : List Json}
    {found : List (String × Content)}, itemContents fields items = .ok found →
      ∀ m ∈ found, m.2.levels ≤ Json.itemsDepth items + 1
  | [], [], _, h => by
    cases h
    exact nofun
  | _ :: _, [], _, h => by
    cases h
    exact nofun
  | [], _ :: _, _, h => by cases h
  | f :: fields, j :: rest, found, h => by
    rw [Json.itemsDepth]
    obtain ⟨c, others, given, read, rfl⟩ := itemContents_cons_eq_ok h
    refine List.forall_mem_cons.mpr ⟨?_, fun m hm => ?_⟩
    · rcases given with rfl | ⟨shape, given⟩
      · exact Nat.zero_le _
      · have levels := levels_le_of_content given
        dsimp only
        omega
    · have levels := levels_le_of_itemContents read m hm
      omega

/-- The expressions that items give have at most one level more than the items. -/
theorem itemsDepth_le_of_exprContents : ∀ {items : List Json} {es : List Expr},
    exprContents items = .ok es → Json.itemsDepth (listToJson es) ≤ Json.itemsDepth items + 1
  | [], _, h => by
    cases h
    exact Nat.zero_le _
  | j :: rest, es, h => by
    rw [exprContents] at h
    obtain ⟨c, read, h⟩ := bind_eq_ok_iff.mp h
    have first := levels_le_of_content read
    split at h
    · obtain ⟨others, more, h⟩ := bind_eq_ok_iff.mp h
      cases h
      have behind := itemsDepth_le_of_exprContents more
      rw [Content.levels] at first
      rw [listToJson, Json.itemsDepth, Json.itemsDepth]
      omega
    · cases h

end

/-! ### Reading what has been written -/

/-- A text that gives an expression is read as a document that gives it. -/
theorem exists_read?_of_ofText {text : String} {e : Expr} (h : ofText text = .ok e) :
    ∃ j, Json.read? text = some j ∧ ofJson j = .ok e := by
  rw [ofText] at h
  split at h
  · cases h
  · next j left read =>
    obtain ⟨d, given, h⟩ := bind_eq_ok_iff.mp h
    split at h
    · next rest =>
      cases h
      refine ⟨j, ?_, given⟩
      rw [Json.read?, read]
      exact if_pos rest
    · cases h

/-- The document of an expression has at most one level more than the one it has been read from. -/
theorem depth_toJson_le_of_ofJson {j : Json} {e : Expr} (h : ofJson j = .ok e) :
    e.toJson.depth ≤ j.depth + 1 := by
  obtain ⟨c, given, h⟩ := bind_eq_ok_iff.mp h
  have levels := levels_le_of_content given
  split at h
  · cases h
    exact levels
  · cases h

/-- An expression that has been read from any text, and whose numbers all survive on their own, is
written as a text that is read back as an expression that is the same, just if the document of this
text is not too deep. This has at most one level more than the document of the first text, so that
it is read back whenever the first one could have had one level more. -/
theorem ofText_render_same_of_ofText {text : String} {e : Expr} (h : ofText text = .ok e)
    (survive : ∀ x ∈ e.numbers, Survives x) :
    ((∃ e', ofText e.toJson.render = .ok e' ∧ e.same e' = true) ↔
      e.toJson.depth ≤ Json.depthLimit) ∧
    ∃ j, Json.read? text = some j ∧ e.toJson.depth ≤ j.depth + 1 ∧
      (j.depth < Json.depthLimit → ∃ e', ofText e.toJson.render = .ok e' ∧ e.same e' = true) := by
  have again : (∃ e', ofText e.toJson.render = .ok e' ∧ e.same e' = true) ↔
      e.toJson.depth ≤ Json.depthLimit := by
    rw [exists_ofText_same_iff (Json.readPrefix_render e.wellFormed_of_mem_numerals_toJson)]
    exact and_iff_left survive
  obtain ⟨j, read, given⟩ := exists_read?_of_ofText h
  have levels := depth_toJson_le_of_ofJson given
  exact ⟨again, j, read, levels, fun below => again.mpr (by omega)⟩

/-- A product whose number stands in an array and whose selector has no list of matchers is read,
and is written and read again. -/
theorem ofText_render_same_of_half_of_up :
    let text := "[\"binary\",\"mul\",[\"number_literal\",0.5],\x7b\"type\":\"vector_selector\"\x7d]"
    ∃ e, ofText text = .ok e ∧ (e.numbers.length = 1 ∧ ∀ x ∈ e.numbers, Survives x) ∧
      ∃ e', ofText e.toJson.render = .ok e' ∧ e.same e' = true := by
  intro text
  obtain ⟨e, read, ⟨one, survive⟩, shallow⟩ := exists_read_of_any text
    (fun e => (e.numbers.length = 1 ∧ ∀ x ∈ e.numbers, Survives x) ∧
      e.toJson.depth ≤ Json.depthLimit) (by decide +kernel)
  exact ⟨e, read, ⟨one, survive⟩, (ofText_render_same_of_ofText read survive).1.mpr shallow⟩

/-! ### The limit -/

/-- The instant selector without anything. -/
def bareSelector : Expr :=
  vector ⟨none, [], none⟩

/-- A document of the bare selector in parentheses, the number of times given, in which nothing is
written that may be left out. -/
def bareParens : Nat → Json
  | 0 => node .vector []
  | n + 1 => node .paren [("expr", bareParens n)]

/-- One pair of parentheses more stands around all others. -/
theorem parens_succ (n : Nat) (e : Expr) : parens (n + 1) e = paren (parens n e) := by
  induction n generalizing e with
  | zero => rfl
  | succ n ih => exact ih (paren e)

/-- The document gives the bare selector in parentheses. -/
theorem content_bareParens (nested : Bool) (n : Nat) :
    content nested .expr (bareParens n) = .ok (.expr (parens n bareSelector)) := by
  induction n generalizing nested with
  | zero =>
    rw [bareParens, content_node (by simp)]
    rfl
  | succ n ih =>
    rw [bareParens, content_node (by simp),
      memberContents_cons ⟨"expr", .expr, .required⟩ rfl rfl (fun h => absurd h (by decide)), ih,
      parens_succ]
    rfl

/-- There is a level for every pair of parentheses and one for the selector. -/
theorem depth_bareParens (n : Nat) : (bareParens n).depth = n + 1 := by
  induction n with
  | zero => rfl
  | succ n ih => simp [bareParens, depth_node, Json.membersDepth, ih]

/-- There are no numbers in the document. -/
theorem numerals_bareParens (n : Nat) : (bareParens n).numerals = [] := by
  induction n with
  | zero => rfl
  | succ n ih => simp [bareParens, numerals_node, Json.membersNumerals, ih]

/-- The list of matchers is written, so that there is one level more. -/
theorem depth_toJson_parens (n : Nat) : (parens n bareSelector).toJson.depth = n + 2 := by
  induction n with
  | zero => rfl
  | succ n ih => simp [parens_succ, toJson, depth_node, Json.membersDepth, ih]

/-- There are no numbers in the bare selector in parentheses. -/
theorem numbers_parens (n : Nat) : (parens n bareSelector).numbers = [] := by
  induction n with
  | zero => rfl
  | succ n ih => rw [parens_succ, numbers, ih]

/-- The bare selector in 126 pairs of parentheses is read from a text of 127 levels, but what it is
then written as has 128 levels and is refused. -/
theorem ofText_render_fails_at_limit :
    ofText (bareParens 126).render = .ok (parens 126 bareSelector) ∧
      (∀ x ∈ (parens 126 bareSelector).numbers, Survives x) ∧
      ¬ ∃ e', ofText (parens 126 bareSelector).toJson.render = .ok e' ∧
        (parens 126 bareSelector).same e' = true := by
  have sound : ∀ n ∈ (bareParens 126).numerals, n.WellFormed := by
    rw [numerals_bareParens]
    exact List.forall_mem_nil _
  have fits : Json.Fits Json.depthLimit (bareParens 126) := by
    rw [Json.Fits, depth_bareParens, numerals_bareParens]
    exact ⟨Nat.le_refl 127, List.forall_mem_nil _⟩
  refine ⟨(ofText_eq_ok_iff (Json.readPrefix_render sound)).mpr ⟨fits, ?_⟩, ?_, ?_⟩
  · rw [ofJson, content_bareParens]
    rfl
  · rw [numbers_parens]
    exact List.forall_mem_nil _
  · rw [exists_ofText_same_iff
      (Json.readPrefix_render (wellFormed_of_mem_numerals_toJson _)), depth_toJson_parens]
    exact fun deep => absurd deep.1 (by decide)

end Expr

end SelectorGuard
