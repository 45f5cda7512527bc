import SelectorGuard.Proofs.Json.Spelling
import SelectorGuard.Proofs.Traversal
import SelectorGuard.Query.Decode
import Mathlib.Data.List.Forall2

/-!
# Documents with their members in another order

What is read from a document does not depend on the order in which the members of its objects
stand. Where a value stands decides what it is read as: a node, a matcher, something without either
in it, or nothing at all. A document is rearranged by giving the members of its objects another
order, at any depth, and by adding null under names that nothing reads, to nodes, to matchers and to
what is not read itself. Everything that is read from a document without nodes in it is read from
the rearranged one as well, and one of the two fits just if the other does.
-/

namespace SelectorGuard

open Json (Fits)

namespace Expr

/-- What a value in a document is read as. -/
inductive Place where
  /-- A node. -/
  | node
  /-- A list of nodes. -/
  | nodes
  /-- A matcher. -/
  | matcher
  /-- A list of matchers. -/
  | matchers
  /-- Something without nodes and matchers in it. -/
  | plain
  /-- Nothing: the value is passed over. -/
  | unread
deriving DecidableEq, Repr

/-- The place of what a field holds. -/
def Shape.place : Shape → Place
  | .expr => .node
  | .exprs => .nodes
  | .matchers => .matchers
  | _ => .plain

namespace Place

/-- The place of the value of a field, if there is such a field. -/
def ofField (f? : Option Field) : Place :=
  f?.elim .unread fun f => f.shape.place

/-- The place of what a member of an object holds. The kind of a node has a field for it, or it is
passed over. -/
def member (p : Place) (members : List (String × Json)) (name : String) : Place :=
  match p with
  | .node =>
    if name = "type" then .plain
    else ofField ((Kind.ofMembers? true members).bind fun kind =>
      kind.fields.find? fun f => f.name == name)
  | .matcher => if name ∈ ["name", "op", "value"] then .plain else .unread
  | .unread => .unread
  | .nodes | .matchers | .plain => .plain

/-- The place of an item of an array at a position. In a node the tag stands first, and the fields
of its kind follow. -/
def item (p : Place) (items : List Json) (position : Nat) : Place :=
  match p, position with
  | .node, 0 => .plain
  | .node, i + 1 =>
    ofField ((items.head?.bind (Kind.ofTag? true)).bind fun kind => kind.fields[i]?)
  | .nodes, _ => .node
  | .matchers, _ => .matcher
  | .unread, _ => .unread
  | .matcher, _ | .plain, _ => .plain

end Place

/-- What a field holds is read. -/
theorem Shape.place_ne_unread (shape : Shape) : shape.place ≠ .unread := by
  cases shape <;> decide

/-- A member of a node is passed over if its name is neither that of the tag nor known to the kind of
the node. -/
theorem Place.member_node_eq_unread_iff {members : List (String × Json)} {name : String} :
    Place.node.member members name = .unread ↔
      name ≠ "type" ∧ ∀ kind ∈ Kind.ofMembers? true members, ∀ f ∈ kind.fields, f.name ≠ name := by
  by_cases tag : name = "type"
  · rw [member, if_pos tag]
    exact iff_of_false nofun fun h => h.1 tag
  · rw [member, if_neg tag]
    cases Kind.ofMembers? true members with
    | none => exact iff_of_true rfl ⟨tag, nofun⟩
    | some kind =>
      rw [Option.bind_some]
      cases found : kind.fields.find? fun f => f.name == name with
      | none =>
        refine iff_of_true rfl ⟨tag, ?_⟩
        rintro _ ⟨⟩ f hf same
        exact List.find?_eq_none.mp found f hf (beq_of_eq same)
      | some f =>
        have hf := List.mem_of_find?_eq_some found
        have same := List.find?_some found
        exact iff_of_false f.shape.place_ne_unread fun h => h.2 kind rfl f hf (eq_of_beq same)

/-- A document at a place, and the same document with the members of its objects in another order,
at any depth, and with members that are null added under names that nothing reads. -/
inductive Rearranged : Place → Json → Json → Prop where
  | null {p : Place} : Rearranged p .null .null
  | bool {p : Place} (b : Bool) : Rearranged p (.bool b) (.bool b)
  | number {p : Place} (n : Numeral) : Rearranged p (.number n) (.number n)
  | string {p : Place} (s : String) : Rearranged p (.string s) (.string s)
  | array {p : Place} {items items' : List Json} (length : items.length = items'.length)
    (inside : ∀ i j j', items[i]? = some j → items'[i]? = some j' →
      Rearranged (p.item items i) j j') :
    Rearranged p (.array items) (.array items')
  -- the values take the places of the members, then some are added, and all may be put anywhere
  | object {p : Place} {members members' values added : List (String × Json)}
    (names : members.map Prod.fst = values.map Prod.fst)
    (inside : ∀ x ∈ members.zip values, Rearranged (p.member members x.1.1) x.1.2 x.2.2)
    (blank : ∀ m ∈ added, m.2 = .null ∧ p.member members m.1 = .unread)
    (order : members'.Perm (values ++ added)) :
    Rearranged p (.object members) (.object members')

mutual

/-- A document is one of its own rearrangements. -/
theorem Rearranged.refl : ∀ (p : Place) (j : Json), Rearranged p j j
  | _, .null => .null
  | _, .bool b => .bool b
  | _, .number n => .number n
  | _, .string s => .string s
  | p, .array items => .array rfl fun i j j' hj hj' => by
    cases hj.symm.trans hj'
    exact refl_of_mem_items items j (List.mem_of_getElem? hj) _
  | p, .object members =>
    .object rfl (forall_zip_self.mpr fun m hm => refl_of_mem_members members m hm _)
      (List.forall_mem_nil _) (.of_eq (List.append_nil members).symm)

/-- The same of every item of a list. -/
theorem refl_of_mem_items : ∀ (items : List Json), ∀ j ∈ items, ∀ p, Rearranged p j j
  | [], _, h, _ => nomatch h
  | i :: rest, j, h, p => by
    rcases List.mem_cons.mp h with same | h
    · exact same ▸ Rearranged.refl p i
    · exact refl_of_mem_items rest j h p

/-- The same of what every member of an object holds. -/
theorem refl_of_mem_members : ∀ (members : List (String × Json)), ∀ m ∈ members, ∀ p,
    Rearranged p m.2 m.2
  | [], _, h, _ => nomatch h
  | (name, i) :: rest, m, h, p => by
    rcases List.mem_cons.mp h with same | h
    · exact same ▸ Rearranged.refl p i
    · exact refl_of_mem_members rest m h p

end

variable {p : Place} {j j' : Json}

/-- The members of an object may stand in another order, and null under names that nothing reads. -/
theorem Rearranged.of_perm {members members' added : List (String × Json)}
    (blank : ∀ m ∈ added, m.2 = .null ∧ p.member members m.1 = .unread)
    (order : members'.Perm (members ++ added)) : Rearranged p (.object members) (.object members') :=
  .object rfl (forall_zip_self.mpr fun m hm => refl_of_mem_members members m hm _) blank order

section

variable {α : Type} {items items' : List Json}
variable {members members' values added : List (String × Json)}

/-! ### What stands in an object -/

/-- Items that give the same position by position. -/
theorem map_eq_of_pointwise {f : Json → α} (length : items.length = items'.length)
    (same : ∀ (i : Nat) j j', items[i]? = some j → items'[i]? = some j' → f j = f j') :
    items.map f = items'.map f := by
  refine List.ext_getElem? fun i => ?_
  rw [List.getElem?_map, List.getElem?_map]
  cases at_items : items[i]? with
  | none =>
    rw [List.getElem?_eq_none (length ▸ List.getElem?_eq_none_iff.mp at_items)]
  | some j =>
    obtain ⟨inside, -⟩ := List.getElem?_eq_some_iff.mp at_items
    have at_items' := List.getElem?_eq_getElem (length ▸ inside : i < items'.length)
    rw [at_items', Option.map_some, Option.map_some, same i j _ at_items at_items']

/-- Members that give the same one by one. -/
theorem map_eq_of_zip {f : String × Json → α} (length : members.length = values.length)
    (same : ∀ x ∈ members.zip values, f x.1 = f x.2) : members.map f = values.map f := by
  induction members generalizing values with
  | nil => rw [List.length_eq_zero_iff.mp length.symm]
  | cons m rest ih =>
    cases values with
    | nil => cases length
    | cons v others =>
      rw [List.zip_cons_cons, List.forall_mem_cons] at same
      rw [List.map_cons, List.map_cons, same.1, ih (Nat.succ.inj length) same.2]

/-- The members with a name. -/
def named (name : String) (members : List (String × Json)) : List (String × Json) :=
  members.filter fun m => m.1 == name

/-- The first member with a name is looked up. -/
theorem lookup_eq_head?_named (name : String) (members : List (String × Json)) :
    members.lookup name = (named name members).head?.map Prod.snd := by
  induction members with
  | nil => rfl
  | cons m rest ih =>
    obtain ⟨key, j⟩ := m
    rw [List.lookup_cons, named, List.filter_cons, BEq.comm]
    cases key == name with
    | true => rfl
    | false => exact ih

/-- Members that agree in their names one by one do so among those with a name. -/
theorem named_zip_subset (name : String) (names : members.map Prod.fst = values.map Prod.fst) :
    (named name members).map Prod.fst = (named name values).map Prod.fst ∧
      ∀ x ∈ (named name members).zip (named name values), x ∈ members.zip values := by
  induction members generalizing values with
  | nil =>
    cases values with
    | nil => exact ⟨rfl, nofun⟩
    | cons v others => cases names
  | cons m rest ih =>
    cases values with
    | nil => cases names
    | cons v others =>
      obtain ⟨first, behind⟩ := List.cons.inj names
      obtain ⟨same, subset⟩ := ih behind
      simp only [named] at same subset ⊢
      rw [List.filter_cons, List.filter_cons, ← first]
      split
      · refine ⟨by rw [List.map_cons, List.map_cons, first, same], ?_⟩
        rw [List.zip_cons_cons, List.zip_cons_cons]
        exact List.forall_mem_cons.mpr
          ⟨List.mem_cons_self, fun x hx => List.mem_cons_of_mem _ (subset x hx)⟩
      · exact ⟨same, fun x hx => List.mem_cons_of_mem _ (subset x hx)⟩

/-- Two lists of members are matched: both are empty, both have one member and what these hold is
related, or both have several. -/
inductive Matched (R : Json → Json → Prop) :
    List (String × Json) → List (String × Json) → Prop where
  | none : Matched R [] []
  | one {name : String} {j j' : Json} (h : R j j') : Matched R [(name, j)] [(name, j')]
  | many {m n m' n' : String × Json} {rest rest' : List (String × Json)} :
    Matched R (m :: n :: rest) (m' :: n' :: rest')

variable {R : Json → Json → Prop}

/-- Members are matched with those that have taken their places, in whatever order. -/
theorem matched_of_perm (names : members.map Prod.fst = values.map Prod.fst)
    (inside : ∀ x ∈ members.zip values, R x.1.2 x.2.2) (order : members'.Perm values) :
    Matched R members members' := by
  have length := congrArg List.length names
  rw [List.length_map, List.length_map, ← order.length_eq] at length
  match members, values, members' with
  | [], _, members' =>
    rw [List.length_eq_zero_iff.mp length.symm]
    exact .none
  | [(name, j)], [(name', j')], _ =>
    rw [List.perm_singleton.mp order]
    obtain rfl : name = name' := (List.cons.inj names).1
    exact .one (inside ((name, j), (name, j')) List.mem_cons_self)
  | [_], [], _ => simp at names
  | [_], _ :: _ :: _, _ => simp at names
  | _ :: _ :: _, _, [] => cases length
  | _ :: _ :: _, _, [_] => cases length
  | m :: n :: rest, _, m' :: n' :: rest' => exact .many

/-- Of two lists that are matched, both or neither have several members. -/
theorem Matched.length_le_one (h : Matched R members members') :
    members.length ≤ 1 ↔ members'.length ≤ 1 := by
  cases h <;> simp

/-- The order of the members and those of other names do not matter for what stands under a name. -/
theorem matched_named (name : String) (names : members.map Prod.fst = values.map Prod.fst)
    (inside : ∀ x ∈ members.zip values, x.1.1 = name → R x.1.2 x.2.2)
    (foreign : ∀ m ∈ added, m.1 ≠ name) (order : members'.Perm (values ++ added)) :
    Matched R (named name members) (named name members') := by
  obtain ⟨same, subset⟩ := named_zip_subset name names
  refine matched_of_perm same (fun x hx => inside x (subset x hx) ?_) ?_
  · obtain ⟨hm, -⟩ := List.of_mem_zip hx
    exact eq_of_beq (List.mem_filter.mp hm).2
  · have others : added.filter (fun m => m.1 == name) = [] :=
      List.filter_eq_nil_iff.mpr fun m hm => by simpa using foreign m hm
    have kept := order.filter fun m => m.1 == name
    rwa [List.filter_append, others, List.append_nil] at kept

/-- What is looked up under a name is related if there is at most one value. -/
theorem Matched.lookup_rel {name : String} (h : Matched R (named name members) (named name members'))
    (once : (named name members').length ≤ 1) :
    Option.Rel R (members.lookup name) (members'.lookup name) := by
  rw [lookup_eq_head?_named, lookup_eq_head?_named]
  generalize named name members = found, named name members' = found' at h once
  cases h with
  | none => exact .none
  | one h => exact .some h
  | many => simp at once

/-! ### Parts without expressions -/

namespace Rearranged

/-- Readers of what has no parts do not see a difference. -/
theorem read_eq {read : Json → Option α} (h : Rearranged p j j')
    (array : ∀ items, read (.array items) = none)
    (object : ∀ members, read (.object members) = none) : read j = read j' := by
  cases h with
  | array => rw [array, array]
  | object => rw [object, object]
  | _ => rfl

/-- A text stays the same. -/
theorem string?_eq (h : Rearranged p j j') : j.string? = j'.string? :=
  h.read_eq (fun _ => rfl) fun _ => rfl

/-- A truth value stays the same. -/
theorem bool?_eq (h : Rearranged p j j') : j.bool? = j'.bool? :=
  h.read_eq (fun _ => rfl) fun _ => rfl

/-- A natural number stays the same. -/
theorem word?_eq (h : Rearranged p j j') : j.word? = j'.word? :=
  h.read_eq (fun _ => rfl) fun _ => rfl

/-- A number stays the same. -/
theorem float?_eq (h : Rearranged p j j') : j.float? = j'.float? :=
  h.read_eq (fun _ => rfl) fun _ => rfl

/-- A tag names the same kind. -/
theorem ofTag?_eq (h : Rearranged p j j') (nested : Bool) :
    Kind.ofTag? nested j = Kind.ofTag? nested j' :=
  h.read_eq (fun _ => rfl) fun _ => rfl

/-- A list of texts stays the same. -/
theorem strings?_eq (h : Rearranged p j j') : j.strings? = j'.strings? := by
  cases h with
  | array length inside =>
    exact mapM_eq_of_map_eq <|
      map_eq_of_pointwise length fun i j j' hj hj' => (inside i j j' hj hj').string?_eq
  | _ => rfl

/-- Nothing is added where all members are read. -/
theorem eq_nil_of_plain
    (blank : ∀ m ∈ added, m.2 = .null ∧ Place.plain.member members m.1 = .unread) : added = [] :=
  List.eq_nil_iff_forall_not_mem.mpr fun m hm => nomatch (blank m hm).2

/-- Where all members are read, they are matched with those that have taken their places. -/
theorem matched (h : Rearranged .plain (.object members) (.object members')) :
    Matched (Rearranged .plain) members members' := by
  cases h with
  | @object _ _ _ values added names inside blank order =>
    obtain rfl := eq_nil_of_plain blank
    rw [List.append_nil] at order
    exact matched_of_perm names inside order

/-- There is nothing to say under a name, or there is. -/
theorem isNothing_eq (h : Rearranged .plain j j') (allowEmpty : Bool) :
    j.isNothing allowEmpty = j'.isNothing allowEmpty := by
  cases h with
  | object names inside blank order =>
    cases (object names inside blank order).matched <;> rfl
  | _ => rfl

/-- A word stays the same. -/
theorem word_eq (h : Rearranged .plain j j') (allowEmpty : Bool) :
    j.word allowEmpty = j'.word allowEmpty := by
  cases h with
  | object names inside blank order =>
    cases (object names inside blank order).matched with
    | one h => rw [Json.word, Json.word, h.isNothing_eq]
    | _ => rfl
  | _ => rfl

/-- One of several things stays the same. -/
theorem choice?_eq {keyword : α → String} {all : List α} (h : Rearranged .plain j j')
    (allowEmpty : Bool) :
    j.choice? allowEmpty keyword all = j'.choice? allowEmpty keyword all := by
  rw [Json.choice?, Json.choice?, h.word_eq]

/-- Where all members are read, the same names are there. -/
theorem all_names_eq (h : Rearranged .plain (.object members) (.object members'))
    (listed : String → Bool) :
    (members.all fun m => listed m.1) = members'.all fun m => listed m.1 := by
  cases h with
  | @object _ _ _ values added names inside blank order =>
    obtain rfl := eq_nil_of_plain blank
    rw [List.append_nil] at order
    have same : (members.map Prod.fst).all listed = (members'.map Prod.fst).all listed :=
      names ▸ (order.map Prod.fst).all_eq.symm
    rwa [List.all_map, List.all_map] at same

/-- The items of an array stand in the fields of a record in order, and the others are missing. -/
theorem fieldsOfItems_rel (length : items.length = items'.length)
    (inside : ∀ (i : Nat) j j', items[i]? = some j → items'[i]? = some j' → Rearranged .plain j j')
    (missing : Nat) :
    List.Forall₂ (Option.Rel (Rearranged .plain))
      (items.map some ++ List.replicate missing none)
      (items'.map some ++ List.replicate missing none) := by
  refine List.rel_append ?_ (List.forall₂_same.mpr fun value hv => ?_)
  · rw [List.forall₂_map_left_iff, List.forall₂_map_right_iff, List.forall₂_iff_get]
    exact ⟨length, fun i hi hi' =>
      .some (inside i _ _ (List.getElem?_eq_getElem hi) (List.getElem?_eq_getElem hi'))⟩
  · rw [List.eq_of_mem_replicate hv]
    exact .none

/-- Rearranged documents are in the fields of a record, if these hold no nodes and the record may
have other members where something is added. -/
theorem fields?_rel {closed : Bool} {fields : List String} (h : Rearranged p j j')
    (positions : ∀ items i, p.item items i = .plain)
    (read : ∀ members, ∀ name ∈ fields, p.member members name = .plain)
    (shut : closed = true → p = .plain) :
    Option.Rel (List.Forall₂ (Option.Rel (Rearranged .plain)))
      (j.fields? closed fields) (j'.fields? closed fields) := by
  cases h with
  | @array _ items items' length inside =>
    simp only [Json.fields?, length]
    split
    · refine .some (fieldsOfItems_rel length (fun i j j' hj hj' => ?_) _)
      exact positions items i ▸ inside i j j' hj hj'
    · exact .none
  | @object _ members members' values added names inside blank order =>
    have under : ∀ name ∈ fields,
        Matched (Rearranged .plain) (named name members) (named name members') := by
      intro name hn
      refine matched_named name names (fun x hx at_name => ?_) (fun m hm at_name => ?_) order
      · have place := inside x hx
        rwa [at_name, read members name hn] at place
      · have place := (blank m hm).2
        rw [at_name, read members name hn] at place
        cases place
    have once : (∀ name ∈ fields, (named name members).length ≤ 1) ↔
        ∀ name ∈ fields, (named name members').length ≤ 1 :=
      forall₂_congr fun name hn => (under name hn).length_le_one
    have known : (!closed || members.all fun m => fields.contains m.1) =
        (!closed || members'.all fun m => fields.contains m.1) := by
      cases closed with
      | false => rfl
      | true =>
        obtain rfl := shut rfl
        rw [(object names inside blank order).all_names_eq]
    simp only [named] at once
    simp only [Json.fields?, known, Bool.and_eq_true, List.all_eq_true, decide_eq_true_eq, once]
    split
    · next sound =>
      refine .some ?_
      rw [List.forall₂_map_left_iff, List.forall₂_map_right_iff, List.forall₂_same]
      exact fun name hn => (under name hn).lookup_rel (sound.1 name hn)
    · exact .none
  | _ => exact .none

/-- A value that may be left out stays the same. -/
theorem orDefault_eq {default : α} {read : Json → Option α} {value value' : Option Json}
    (h : Option.Rel (Rearranged .plain) value value')
    (same : ∀ {j j'}, Rearranged .plain j j' → read j = read j') :
    Json.orDefault default read value = Json.orDefault default read value' := by
  cases h with
  | none => rfl
  | some h => exact same h

/-- What is read from the fields of a record stays the same if it is so for related fields. -/
theorem bind_eq_of_rel {fields fields' : Option (List (Option Json))}
    {read : List (Option Json) → Option α}
    (h : Option.Rel (List.Forall₂ (Option.Rel (Rearranged .plain))) fields fields')
    (same : ∀ {values values'}, List.Forall₂ (Option.Rel (Rearranged .plain)) values values' →
      read values = read values') :
    fields.bind read = fields'.bind read := by
  cases h with
  | none => rfl
  | some h => exact same h

/-- A duration stays the same. -/
theorem duration_eq (h : Rearranged .plain j j') : Duration.ofJson? j = Duration.ofJson? j' := by
  refine bind_eq_of_rel (h.fields?_rel (fun _ _ => rfl) (fun _ _ _ => rfl) fun _ => rfl) ?_
  rintro values values' (_ | ⟨secs, _ | ⟨nanos, _ | ⟨more, rest⟩⟩⟩)
  · rfl
  · cases secs <;> rfl
  · rcases secs with secs | _ <;> rcases nanos with nanos | _
    · simp only [secs.word?_eq, nanos.word?_eq]
    · rfl
    · rfl
    · rfl
  · cases secs <;> cases nanos <;> rfl

/-- A vector matching stays the same. -/
theorem matching_eq (h : Rearranged .plain j j') :
    VectorMatching.ofJson? j = VectorMatching.ofJson? j' := by
  refine bind_eq_of_rel (h.fields?_rel (fun _ _ => rfl) (fun _ _ _ => rfl) fun _ => rfl) ?_
  rintro values values' (_ | ⟨card, _ | ⟨on, _ | ⟨labels, _ | ⟨includes, _ | ⟨more, rest⟩⟩⟩⟩⟩)
  · rfl
  · rfl
  · rfl
  · rfl
  · have cards : Json.orDefault .oneToOne
        (Json.choice? true Cardinality.keyword Cardinality.all) _ = _ :=
      orDefault_eq card fun h => h.choice?_eq true
    simp only [cards, orDefault_eq on bool?_eq, orDefault_eq labels strings?_eq,
      orDefault_eq includes strings?_eq]
  · rfl

/-- A matcher stays the same. -/
theorem matcher_eq (h : Rearranged .matcher j j') (allowEmpty : Bool) :
    Matcher.ofJson allowEmpty j = Matcher.ofJson allowEmpty j' := by
  have parts : Matcher.parts? allowEmpty j = Matcher.parts? allowEmpty j' := by
    refine bind_eq_of_rel (h.fields?_rel (fun _ _ => rfl) (fun _ _ hn => if_pos hn) nofun) ?_
    rintro values values' (_ | ⟨name, _ | ⟨op, _ | ⟨value, _ | ⟨more, rest⟩⟩⟩⟩)
    · rfl
    · cases name <;> rfl
    · cases name <;> cases op <;> rfl
    · rcases name with name | _ <;> rcases op with op | _ <;> rcases value with value | _
      · simp only [MatchKind.ofJson?, op.choice?_eq, name.string?_eq, value.string?_eq]
      all_goals rfl
    · cases name <;> cases op <;> cases value <;> rfl
  rw [Matcher.ofJson, Matcher.ofJson, parts]

open DecodeFault (require)

/-- What a field without expressions in it holds stays the same. -/
theorem leaf_eq : ∀ {shape : Shape}, Rearranged shape.place j j' → shape.leaf j = shape.leaf j'
  | .expr, _ => rfl
  | .exprs, _ => rfl
  | .text, h => congrArg (fun s => (require s).map Content.text) h.string?_eq
  | .texts, h => congrArg (fun ss => (require ss).map Content.texts) h.strings?_eq
  | .flag, h => congrArg (fun b => (require b).map Content.flag) h.bool?_eq
  | .number, h => congrArg (fun x => (require x).map Content.number) h.float?_eq
  | .duration, h => congrArg (fun d => (require d).map Content.duration) h.duration_eq
  | .aggregator, h => congrArg (fun op => (require op).map Content.aggregator) (h.choice?_eq true)
  | .binaryOperator, h =>
    congrArg (fun op => (require op).map Content.binaryOperator) (h.choice?_eq true)
  | .unaryOperator, h =>
    congrArg (fun op => (require op).map Content.unaryOperator) (h.choice?_eq true)
  | .matching, h => congrArg (fun v => (require v).map Content.matching) h.matching_eq
  | .matchers, h => by
    cases h with
    | array length inside =>
      have same := map_eq_of_pointwise length fun i j j' hj hj' =>
        (inside i j j' hj hj').matcher_eq true
      exact congrArg (Except.map Content.matchers) (mapM_eq_of_map_eq same)
    | _ => rfl

/-- Rearranged documents fit alike. -/
theorem fits_iff (h : Rearranged p j j') (depth : Nat) : Fits depth j ↔ Fits depth j' := by
  induction h generalizing depth with
  | array length inside ih =>
    cases depth with
    | zero => exact iff_of_false Json.not_fits_array_zero Json.not_fits_array_zero
    | succ depth =>
      have same := map_eq_of_pointwise length fun i j j' hj hj' => propext (ih i j j' hj hj' depth)
      rw [Json.fits_array_succ, Json.fits_array_succ, Json.itemsFit_iff, Json.itemsFit_iff]
      exact forall_mem_iff_of_map_eq same
  | @object p members members' values added names inside blank order ih =>
    cases depth with
    | zero => exact iff_of_false Json.not_fits_object_zero Json.not_fits_object_zero
    | succ depth =>
      have length := congrArg List.length names
      rw [List.length_map, List.length_map] at length
      have same := map_eq_of_zip (f := fun m => Fits depth m.2) length fun x hx =>
        propext (ih x hx depth)
      have fits_added : ∀ m ∈ added, Fits depth m.2 := by
        intro m hm
        rw [(blank m hm).1]
        exact Json.fits_of_bare rfl rfl depth
      have spread : (∀ m ∈ members', Fits depth m.2) ↔ ∀ m ∈ values, Fits depth m.2 := by
        simp only [order.mem_iff]
        exact List.forall_mem_append.trans (and_iff_left fits_added)
      rw [Json.fits_object_succ, Json.fits_object_succ, Json.membersFit_iff, Json.membersFit_iff,
        spread]
      exact forall_mem_iff_of_map_eq same
  | _ => exact Iff.rfl

end Rearranged

end

end Expr

end SelectorGuard
