import SelectorGuard.Proofs.Json.Accepted
import SelectorGuard.Proofs.Query.Levels
import SelectorGuard.Proofs.Query.Rearranged

/-!
# Expressions do not depend on the order of members

The tag that names the kind of a node may stand behind the fields that it governs, and every field
is looked up by its name. So a node is read from its fields in whatever order they stand, however
deep the node lies in the document, and members under names that nothing reads are passed over. A
text and one that writes the rearranged document give the same expression, or neither gives any.
-/

namespace SelectorGuard.Expr

variable {p : Place} {j j' : Json} {members members' values added : List (String × Json)}

/-! ### The fields of an object -/

/-- The content of a field among the members of an object, if the field is there. There must not be
several members with its name. -/
def Field.find (f : Field) (members : List (String × Json)) : Except DecodeFault (Option Content) :=
  match named f.name members with
  | [] => .ok none
  | [(_, j)] => do return some (← f.read j)
  | _ => .error .malformed

/-- A member stands under its name, in front of those behind it. -/
theorem named_cons_self (name : String) (j : Json) (rest : List (String × Json)) :
    named name ((name, j) :: rest) = (name, j) :: named name rest :=
  List.filter_cons_of_pos BEq.rfl

/-- Members under other names do not stand under a name. -/
theorem named_cons_of_ne {name key : String} (h : key ≠ name) (j : Json)
    (rest : List (String × Json)) : named name ((key, j) :: rest) = named name rest :=
  List.filter_cons_of_neg (by simpa using h)

/-- Members under other names do not matter to a field. -/
theorem Field.find_cons_of_ne {f : Field} {name : String} (h : name ≠ f.name) (j : Json)
    (rest : List (String × Json)) : f.find ((name, j) :: rest) = f.find rest := by
  rw [find, find, named_cons_of_ne h]

/-- A field that is among the members is the only one of its name. -/
theorem Field.find_cons_eq_ok_iff {f : Field} {j : Json} {rest : List (String × Json)}
    {c? : Option Content} :
    f.find ((f.name, j) :: rest) = .ok c? ↔
      named f.name rest = [] ∧ ∃ c, f.read j = .ok c ∧ some c = c? := by
  rw [find, named_cons_self]
  cases named f.name rest with
  | nil =>
    refine bind_eq_ok_iff.trans (Iff.trans ?_ (and_iff_right rfl).symm)
    exact exists_congr fun c => and_congr_right fun _ => Iff.of_eq (Except.ok.injEq _ _)
  | cons m others => exact iff_of_false nofun fun h => nomatch h.1

/-- What is found of a field is what its name leads to among the members. -/
theorem find_of_memberContents {fields : List Field} {f : Field}
    (known : (fields.find? fun g => g.name == f.name) = some f) {seen : List String}
    {found : List (String × Content)} (h : memberContents fields seen members = .ok found) :
    f.find members = .ok (found.lookup f.name) ∧ (f.name ∈ seen → named f.name members = []) := by
  induction members generalizing seen found with
  | nil =>
    cases h
    exact ⟨rfl, fun _ => rfl⟩
  | cons m rest ih =>
    obtain ⟨name, j⟩ := m
    cases given : fields.find? fun g => g.name == name with
    | none =>
      have ne : name ≠ f.name := by
        rintro rfl
        cases known.symm.trans given
      rw [memberContents_cons_of_unknown given] at h
      rw [Field.find_cons_of_ne ne, named_cons_of_ne ne]
      exact ih h
    | some g =>
      obtain ⟨fresh, c, read, others, behind, rfl⟩ := (memberContents_cons_of_known given).mp h
      obtain ⟨there, unseen⟩ := ih behind
      by_cases same : name = f.name
      · subst same
        cases known.symm.trans given
        refine ⟨Field.find_cons_eq_ok_iff.mpr ⟨unseen List.mem_cons_self, c, read, ?_⟩,
          fun listed => absurd listed fresh⟩
        rw [List.lookup_cons_self]
      · rw [Field.find_cons_of_ne same, named_cons_of_ne same, List.lookup_cons,
          beq_false_of_ne (Ne.symm same)]
        exact ⟨there, fun listed => unseen (List.mem_cons_of_mem name listed)⟩

/-- Members are read if all fields can be found among them. -/
theorem exists_memberContents {fields : List Field} {seen : List String}
    (found : ∀ f ∈ fields, ∃ c?, f.find members = .ok c?)
    (fresh : ∀ f ∈ fields, f.name ∈ seen → named f.name members = []) :
    ∃ found, memberContents fields seen members = .ok found := by
  induction members generalizing seen with
  | nil => exact ⟨[], rfl⟩
  | cons m rest ih =>
    obtain ⟨name, j⟩ := m
    cases given : fields.find? fun g => g.name == name with
    | none =>
      have ne : ∀ f ∈ fields, name ≠ f.name := fun f hf same =>
        List.find?_eq_none.mp given f hf (beq_of_eq same.symm)
      rw [memberContents_cons_of_unknown given]
      refine ih (fun f hf => ?_) fun f hf listed => ?_
      · rw [← Field.find_cons_of_ne (ne f hf) j]
        exact found f hf
      · rw [← named_cons_of_ne (ne f hf) j]
        exact fresh f hf listed
    | some g =>
      have hg := List.mem_of_find?_eq_some given
      have same := List.find?_some given
      obtain rfl : g.name = name := eq_of_beq same
      obtain ⟨c?, there⟩ := found g hg
      obtain ⟨once, c, read, -⟩ := Field.find_cons_eq_ok_iff.mp there
      have unseen : g.name ∉ seen := fun listed => List.cons_ne_nil _ _
        ((named_cons_self g.name j rest).symm.trans (fresh g hg listed))
      -- behind the member no field of its name is left, and the others are found as before
      have found' : ∀ f ∈ fields, ∃ c?, f.find rest = .ok c? := fun f hf => by
        by_cases same : g.name = f.name
        · exact ⟨none, by rw [Field.find, ← same, once]⟩
        · rw [← Field.find_cons_of_ne same j]
          exact found f hf
      have fresh' : ∀ f ∈ fields, f.name ∈ g.name :: seen → named f.name rest = [] :=
        fun f hf listed => by
          by_cases same : g.name = f.name
          · rw [← same, once]
          · rw [← named_cons_of_ne same j]
            exact fresh f hf ((List.mem_cons.mp listed).resolve_left (Ne.symm same))
      obtain ⟨others, behind⟩ := ih found' fresh'
      exact ⟨_, (memberContents_cons_of_known given).mpr ⟨unseen, c, read, others, behind, rfl⟩⟩

/-- A node depends only on what is found of the fields of its kind. -/
theorem finish_congr {kind : Kind} {found found' : List (String × Content)}
    (h : ∀ f ∈ kind.fields, found.lookup f.name = found'.lookup f.name) :
    finish kind found = finish kind found' := by
  have same : (kind.fields.mapM fun f => found.lookup f.name <|> f.absent?) =
      kind.fields.mapM fun f => found'.lookup f.name <|> f.absent? :=
    mapM_eq_of_map_eq (List.map_congr_left fun f hf => by rw [h f hf])
  rw [finish, finish, same]

/-- The fields of a kind have different names. -/
theorem find?_fields {kind : Kind} {f : Field} (hf : f ∈ kind.fields) :
    (kind.fields.find? fun g => g.name == f.name) = some f := by
  have all : ∀ f ∈ kind.fields, (kind.fields.find? fun g => g.name == f.name) = some f := by
    cases kind <;> decide
  exact all f hf

/-- A node is read from the members of an object if the same is found of every field as in an object
that it is read from. -/
theorem memberContents_transfer {kind : Kind} {c : Content}
    (same : ∀ f ∈ kind.fields, ∀ c?, f.find members = .ok c? → f.find members' = .ok c?)
    (h : memberContents kind.fields [] members >>= finish kind = .ok c) :
    memberContents kind.fields [] members' >>= finish kind = .ok c := by
  obtain ⟨found, read, made⟩ := bind_eq_ok_iff.mp h
  have there : ∀ f ∈ kind.fields, f.find members' = .ok (found.lookup f.name) := fun f hf =>
    same f hf _ (find_of_memberContents (find?_fields hf) read).1
  obtain ⟨found', read'⟩ : ∃ found', memberContents kind.fields [] members' = .ok found' :=
    exists_memberContents (fun f hf => ⟨_, there f hf⟩) fun _ _ => nofun
  refine bind_eq_ok_iff.mpr ⟨found', read', ?_⟩
  rw [← made]
  refine finish_congr fun f hf => ?_
  have again := (find_of_memberContents (find?_fields hf) read').1
  exact Except.ok.inj (again.symm.trans (there f hf))

/-! ### Rearranged documents -/

/-- Two documents give the same content of a field, or neither gives any. -/
def Field.Alike (f : Field) (j j' : Json) : Prop :=
  ∀ c, f.read j = .ok c ↔ f.read j' = .ok c

/-- A tag that names a kind at the root names it anywhere. -/
theorem Kind.ofTag?_true {nested : Bool} {kind : Kind} (h : ofTag? nested j = some kind) :
    ofTag? true j = some kind := by
  cases nested with
  | true => exact h
  | false =>
    cases j with
    | string => exact h
    | _ => cases h

/-- Members that name a kind at the root name it anywhere. -/
theorem Kind.ofMembers?_true {nested : Bool} {kind : Kind}
    (h : ofMembers? nested members = some kind) : ofMembers? true members = some kind := by
  unfold ofMembers? at h ⊢
  split at h
  · exact ofTag?_true h
  · cases h

/-- No member that is added is a tag, and that of a node is not changed. -/
theorem Kind.ofMembers?_eq (names : members.map Prod.fst = values.map Prod.fst)
    (inside : ∀ x ∈ members.zip values, Rearranged (Place.node.member members x.1.1) x.1.2 x.2.2)
    (blank : ∀ m ∈ added, m.2 = .null ∧ Place.node.member members m.1 = .unread)
    (order : members'.Perm (values ++ added)) (nested : Bool) :
    ofMembers? nested members = ofMembers? nested members' := by
  have tags : Matched (fun j j' => ofTag? nested j = ofTag? nested j')
      (members.filter fun m => m.1 == "type") (members'.filter fun m => m.1 == "type") :=
    matched_named "type" names (fun x hx _ => (inside x hx).ofTag?_eq nested)
      (fun m hm => (Place.member_node_eq_unread_iff.mp (blank m hm).2).1) order
  unfold ofMembers?
  generalize (members.filter fun m => m.1 == "type") = tagged,
    (members'.filter fun m => m.1 == "type") = tagged' at tags
  cases tags with
  | one same => exact same
  | _ => rfl

/-- What a field holds is alike if it is rearranged and gives the same where it is not null. -/
theorem Rearranged.alike {f : Field} (h : Rearranged f.shape.place j j')
    (same : ∀ c, content true f.shape j = .ok c ↔ content true f.shape j' = .ok c) :
    f.Alike j j' := by
  intro c
  obtain ⟨_, shape, presence⟩ := f
  cases presence <;> cases h <;> first | exact same c | exact Iff.rfl

/-- What is found of a field is the same where what stands under its name is alike. -/
theorem Matched.find_iff {f : Field}
    (h : Matched f.Alike (named f.name members) (named f.name members')) (c? : Option Content) :
    f.find members = .ok c? ↔ f.find members' = .ok c? := by
  unfold Field.find
  generalize named f.name members = there, named f.name members' = there' at h
  cases h with
  | none => exact Iff.rfl
  | one alike =>
    refine bind_eq_ok_iff.trans (Iff.trans ?_ bind_eq_ok_iff.symm)
    exact exists_congr fun c => and_congr_left fun _ => alike c
  | many => exact Iff.rfl

/-- The fields of a node in an array are the same if the items are alike for them. -/
theorem itemContents_iff {fields : List Field} {items items' : List Json}
    (length : items.length = items'.length)
    (alike : ∀ (i : Nat) f j j', fields[i]? = some f → items[i]? = some j → items'[i]? = some j' →
      f.Alike j j') (found : List (String × Content)) :
    itemContents fields items = .ok found ↔ itemContents fields items' = .ok found := by
  induction items generalizing fields items' found with
  | nil => rw [List.length_eq_zero_iff.mp length.symm]
  | cons j rest ih =>
    cases items' with
    | nil => cases length
    | cons j' rest' =>
      cases fields with
      | nil => exact Iff.rfl
      | cons f fields =>
        have first := alike 0 f j j' rfl rfl rfl
        have behind := ih (Nat.succ.inj length) fun i => alike (i + 1)
        simp only [itemContents_cons, bind_eq_ok_iff]
        exact exists_congr fun c => and_congr (first c) <|
          exists_congr fun others => and_congr_left fun _ => behind others

/-- The expressions that items give are the same if each of them gives the same. -/
theorem exprContents_iff {items items' : List Json} (length : items.length = items'.length)
    (same : ∀ (i : Nat) j j', items[i]? = some j → items'[i]? = some j' →
      ∀ c, content true .expr j = .ok c ↔ content true .expr j' = .ok c) (es : List Expr) :
    exprContents items = .ok es ↔ exprContents items' = .ok es := by
  induction items generalizing items' es with
  | nil => rw [List.length_eq_zero_iff.mp length.symm]
  | cons j rest ih =>
    cases items' with
    | nil => cases length
    | cons j' rest' =>
      have behind := ih (Nat.succ.inj length) fun i => same (i + 1)
      simp only [exprContents, bind_eq_ok_iff]
      refine exists_congr fun c => and_congr (same 0 j j' rfl rfl c) ?_
      cases c with
      | expr e =>
        simp only [bind_eq_ok_iff]
        exact exists_congr fun others => and_congr_left fun _ => behind others
      | _ => exact Iff.rfl

/-- Two documents give the same content of every field that holds what stands at a place, or neither
gives any. -/
def SameContent (p : Place) (j j' : Json) : Prop :=
  ∀ {shape : Shape}, p = shape.place →
    ∀ nested c, content nested shape j = .ok c ↔ content nested shape j' = .ok c

/-- A node in an array is the same where its items are rearranged. -/
theorem content_array_iff {items items' : List Json} (length : items.length = items'.length)
    (inside : ∀ (i : Nat) j j', items[i]? = some j → items'[i]? = some j' →
      Rearranged (Place.node.item items i) j j')
    (same : ∀ (i : Nat) j j', items[i]? = some j → items'[i]? = some j' →
      SameContent (Place.node.item items i) j j') (nested : Bool) (c : Content) :
    content nested .expr (.array items) = .ok c ↔ content nested .expr (.array items') = .ok c := by
  match items, items' with
  | [], [] => exact Iff.rfl
  | [], _ :: _ => cases length
  | _ :: _, [] => cases length
  | tag :: rest, tag' :: rest' =>
    have tags := (inside 0 tag tag' rfl rfl).ofTag?_eq nested
    simp only [content, ← tags, bind_eq_ok_iff]
    refine exists_congr fun kind => and_congr_right fun given => exists_congr fun found =>
      and_congr_left fun _ => itemContents_iff (Nat.succ.inj length) (fun i f j j' hf hj hj' => ?_) _
    have kinds : Kind.ofTag? true tag = some kind := Kind.ofTag?_true (DecodeFault.require_eq_ok_iff.mp given)
    have place : Place.node.item (tag :: rest) (i + 1) = f.shape.place := by
      simp [Place.item, Place.ofField, kinds, hf]
    exact Rearranged.alike (place ▸ inside (i + 1) j j' hj hj') (same (i + 1) j j' hj hj' place true)

/-- A field of a node is read where its kind has it. -/
theorem Place.member_of_field {kind : Kind} (h : Kind.ofMembers? true members = some kind)
    {f : Field} (hf : f ∈ kind.fields) : Place.node.member members f.name = f.shape.place := by
  have untyped : ∀ f ∈ kind.fields, f.name ≠ "type" := by
    cases kind <;> decide
  simp only [member, if_neg (untyped f hf), h, Option.bind_some, find?_fields hf, ofField,
    Option.elim]

/-- A node in an object is the same where its members are rearranged. -/
theorem content_object_iff (names : members.map Prod.fst = values.map Prod.fst)
    (inside : ∀ x ∈ members.zip values, Rearranged (Place.node.member members x.1.1) x.1.2 x.2.2)
    (blank : ∀ m ∈ added, m.2 = .null ∧ Place.node.member members m.1 = .unread)
    (order : members'.Perm (values ++ added))
    (same : ∀ x ∈ members.zip values, SameContent (Place.node.member members x.1.1) x.1.2 x.2.2)
    (nested : Bool) (c : Content) :
    content nested .expr (.object members) = .ok c ↔
      content nested .expr (.object members') = .ok c := by
  have tags := Kind.ofMembers?_eq names inside blank order nested
  rw [content, content, ← tags, bind_eq_ok_iff, bind_eq_ok_iff]
  refine exists_congr fun kind => and_congr_right fun given => ?_
  have kinds := Kind.ofMembers?_true (DecodeFault.require_eq_ok_iff.mp given)
  have found : ∀ f ∈ kind.fields, Matched f.Alike (named f.name members) (named f.name members') := by
    intro f hf
    have place := Place.member_of_field kinds hf
    refine matched_named f.name names (fun x hx at_name => ?_) (fun m hm at_name => ?_) order
    · rw [← at_name] at place
      exact Rearranged.alike (place ▸ inside x hx) (same x hx place true)
    · exact (Place.member_node_eq_unread_iff.mp (blank m hm).2).2 kind kinds f hf at_name.symm
  exact ⟨memberContents_transfer fun f hf c? => ((found f hf).find_iff c?).mp,
    memberContents_transfer fun f hf c? => ((found f hf).find_iff c?).mpr⟩

/-- A field without expressions in it holds the same where this is rearranged. -/
theorem content_leaf_iff {shape : Shape} (leaf : shape ≠ .expr ∧ shape ≠ .exprs)
    (h : Rearranged shape.place j j') (nested : Bool) (c : Content) :
    content nested shape j = .ok c ↔ content nested shape j' = .ok c := by
  rw [content_of_leaf leaf, content_of_leaf leaf, h.leaf_eq]

/-- A rearranged document gives the same content of a field, or neither gives any. -/
theorem Rearranged.sameContent (h : Rearranged p j j') : SameContent p j j' := by
  -- the induction is on the rearrangement, so that every part is alike where it is read
  induction h with
  | array length inside ih =>
    intro shape place nested c
    subst place
    cases shape with
    | expr => exact content_array_iff length inside ih nested c
    | exprs =>
      simp only [content, bind_eq_ok_iff]
      exact exists_congr fun es => and_congr_left fun _ =>
        exprContents_iff length (fun i j j' hj hj' => ih i j j' hj hj' rfl true) es
    | _ => exact content_leaf_iff (by decide) (.array length inside) nested c
  | object names inside blank order ih =>
    intro shape place nested c
    subst place
    cases shape with
    | expr => exact content_object_iff names inside blank order ih nested c
    | exprs => exact Iff.rfl
    | _ => exact content_leaf_iff (by decide) (.object names inside blank order) nested c
  | _ => exact fun _ _ _ => Iff.rfl

/-- A document and the rearranged one give the same expression, or neither gives any. -/
theorem Rearranged.ofJson_eq_ok_iff (h : Rearranged .node j j') (e : Expr) :
    ofJson j = .ok e ↔ ofJson j' = .ok e := by
  simp only [ofJson, bind_eq_ok_iff]
  exact exists_congr fun c => and_congr_left fun _ => h.sameContent rfl false c

/-! ### Texts -/

/-- A text that writes a document gives the expression of the document, if this fits. -/
theorem ofText_eq_ok_iff_of_writes {text : String} {j? : Option Json}
    (h : Json.Writes j? text.toList) {e : Expr} :
    ofText text = .ok e ↔ ∃ j, j? = some j ∧ Json.Fits Json.depthLimit j ∧ ofJson j = .ok e := by
  obtain ⟨left, space, read⟩ := Json.exists_readPrefix_of_writes h
  cases j? with
  | none =>
    rw [ofText, read]
    constructor
    · intro given
      cases given
    · rintro ⟨_, same, -⟩
      cases same
  | some j =>
    rw [ofText_eq_ok_iff_of_space space read]
    simp only [Option.some.injEq, exists_eq_left']

/-- A text that gives an expression writes a document, so that it can be rearranged. -/
theorem exists_writes_of_ofText {text : String} {e : Expr} (h : ofText text = .ok e) :
    ∃ j, Json.Writes (some j) text.toList ∧ ofJson j = .ok e := by
  obtain ⟨j, read, given⟩ := exists_read?_of_ofText h
  exact ⟨j, (Json.read?_eq_some_iff.mp read).1, given⟩

/-- A text that gives an expression writes a document that gives it. Where one text writes a document
and another writes it with the members of its objects in another order, at any depth, the tag of a
node among them, and with members that are null added to nodes and matchers under names that these
do not know, the two texts give the same expression, or neither gives any. Space, escapes and
exponents may differ as well, and names may be repeated. -/
theorem ofText_eq_ok_iff_of_rearranged (text : String) (e : Expr) :
    (ofText text = .ok e → ∃ j, Json.Writes (some j) text.toList ∧ ofJson j = .ok e) ∧
    ∀ {text' : String} {j? j'? : Option Json}, Json.Writes j? text.toList →
      Json.Writes j'? text'.toList → Option.Rel (Rearranged .node) j? j'? →
      (ofText text = .ok e ↔ ofText text' = .ok e) := by
  refine ⟨exists_writes_of_ofText, fun written written' related => ?_⟩
  rw [ofText_eq_ok_iff_of_writes written, ofText_eq_ok_iff_of_writes written']
  cases related with
  | none => exact Iff.rfl
  | some related =>
    simp only [Option.some.injEq, exists_eq_left', related.fits_iff, related.ofJson_eq_ok_iff]

/-- The members of a matcher. -/
def jobMembers : List (String × Json) :=
  [("name", .string "job"), ("op", .string "equal"), ("value", .string "api")]

/-- The members of a selector with one matcher. -/
def selectorMembers (matcher : List (String × Json)) : List (String × Json) :=
  [("type", .string "vector_selector"), ("name", .string "up"),
    ("matchers", .array [.object matcher])]

/-- The members of an expression in parentheses. -/
def parenMembers (body : List (String × Json)) : List (String × Json) :=
  [("type", .string "paren"), ("expr", .object body)]

/-- A selector in parentheses is read from a document, and with its members from last to first, both
tags at the end, and with null under a name of no field in the node and in the matcher. -/
theorem ofText_eq_ok_iff_of_reversed_paren :
    let text := "\x7b\"type\":\"paren\",\"expr\":\x7b\"type\":\"vector_selector\",\"name\":\"up\"," ++
      "\"matchers\":[\x7b\"name\":\"job\",\"op\":\"equal\",\"value\":\"api\"\x7d]\x7d\x7d"
    let text' := "\x7b\"lookback\":null,\"expr\":\x7b\"matchers\":[\x7b\"note\":null,\"value\":\"api\"," ++
      "\"op\":\"equal\",\"name\":\"job\"\x7d],\"name\":\"up\",\"type\":\"vector_selector\"\x7d," ++
      "\"type\":\"paren\"\x7d"
    ∃ e, ofText text = .ok e ∧ (∃ j, Json.Writes (some j) text.toList ∧ ofJson j = .ok e) ∧
      ofText text' = .ok e := by
  intro text text'
  let matcher := (jobMembers ++ [("note", Json.null)]).reverse
  let selector := (selectorMembers matcher).reverse
  let paren := (parenMembers selector ++ [("lookback", Json.null)]).reverse
  have inner : Rearranged .matcher (.object jobMembers) (.object matcher) :=
    .of_perm (List.forall_mem_singleton.mpr ⟨rfl, rfl⟩) (List.reverse_perm _)
  have list : Rearranged .matchers (.array [.object jobMembers]) (.array [.object matcher]) := by
    refine .array rfl fun i j j' hj hj' => ?_
    cases i with
    | zero =>
      cases hj
      cases hj'
      exact inner
    | succ i => cases hj
  have body : Rearranged .node (.object (selectorMembers jobMembers)) (.object selector) :=
    @Rearranged.object _ _ _ (selectorMembers matcher) [] rfl
      (List.forall_mem_cons.mpr ⟨.string _, List.forall_mem_cons.mpr ⟨.string _,
        List.forall_mem_singleton.mpr list⟩⟩) (List.forall_mem_nil _) (List.reverse_perm _)
  have outer : Rearranged .node (.object (parenMembers (selectorMembers jobMembers)))
      (.object paren) :=
    @Rearranged.object _ _ _ (parenMembers selector) [("lookback", .null)] rfl
      (List.forall_mem_cons.mpr ⟨.string _, List.forall_mem_singleton.mpr body⟩)
      (List.forall_mem_singleton.mpr ⟨rfl, rfl⟩) (List.reverse_perm _)
  have written : text = Json.render (.object (parenMembers (selectorMembers jobMembers))) := by
    decide +kernel
  have written' : text' = Json.render (.object paren) := by
    decide +kernel
  obtain ⟨e, read, -⟩ := exists_read_of_any text (fun _ => True) (by decide +kernel)
  obtain ⟨writes, same⟩ := ofText_eq_ok_iff_of_rearranged text e
  refine ⟨e, read, writes read, (same ?_ ?_ (.some outer)).mp read⟩
  · rw [written]
    exact Json.writes_render nofun
  · rw [written']
    exact Json.writes_render nofun

end SelectorGuard.Expr
