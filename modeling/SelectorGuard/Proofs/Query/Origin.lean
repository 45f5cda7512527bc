import SelectorGuard.Proofs.Policy.Configuration
import SelectorGuard.Proofs.Query.Levels
import SelectorGuard.Query.Statement

/-!
# Where the matchers of an expression come from

An expression is read node by node, and only one shape of field holds matchers. Each of them has
been read, as a matcher on its own is read, from a document inside the one that gives the
expression, however deep it lies there. Nothing else that is read brings a matcher with it.
-/

namespace SelectorGuard

/-! ### The documents inside a document -/

namespace Json

mutual

/-- A document and all documents inside it. -/
def documents : Json → List Json
  | .array items => .array items :: itemsDocuments items
  | .object members => .object members :: membersDocuments members
  | .null => [.null]
  | .bool b => [.bool b]
  | .number n => [.number n]
  | .string s => [.string s]

/-- The items of a list and all documents inside them. -/
def itemsDocuments : List Json → List Json
  | [] => []
  | j :: rest => documents j ++ itemsDocuments rest

/-- What the members of an object hold and all documents inside that. -/
def membersDocuments : List (String × Json) → List Json
  | [] => []
  | (_, j) :: rest => documents j ++ membersDocuments rest

end

/-- A document is one of those that count as inside it. -/
theorem mem_documents_self (j : Json) : j ∈ j.documents := by
  cases j <;> rw [documents] <;> exact List.mem_cons_self

/-- The items of a list are inside it. -/
theorem mem_itemsDocuments {items : List Json} {j : Json} (h : j ∈ items) :
    j ∈ itemsDocuments items := by
  induction items with
  | nil => cases h
  | cons i rest ih =>
    rw [itemsDocuments, List.mem_append]
    rcases List.mem_cons.mp h with rfl | h
    · exact .inl (mem_documents_self j)
    · exact .inr (ih h)

end Json

/-- Whatever is read as a matcher from one of some documents has a property. -/
def Json.Yield (P : Matcher → Prop) (documents : List Json) : Prop :=
  ∀ d ∈ documents, ∀ m, Matcher.ofJson true d = .ok m → P m

namespace Expr

/-- The matchers of all selectors in the tree. -/
def matchers (e : Expr) : List Matcher :=
  e.selectors.flatMap Selector.matchers

/-- The matchers in the content of a field. -/
def Content.held : Content → List Matcher
  | expr e => e.matchers
  | exprs es => (listSelectors es).flatMap Selector.matchers
  | matchers ms => ms
  | _ => []

variable {P : Matcher → Prop}

/-- An expression that may be missing has the matchers of the content that gives it. -/
theorem forall_matchers_of_expr? {c : Content} {e : Option Expr} (h : c.expr? = some e)
    (all : ∀ m ∈ c.held, P m) : ∀ m ∈ (optionSelectors e).flatMap Selector.matchers, P m := by
  cases c <;> cases h <;> exact all

/-- A node has the matchers that the contents of its fields have. -/
theorem forall_matchers_of_assemble? {kind : Kind} {contents : List Content} {e : Expr}
    (h : assemble? kind contents = some e) (all : ∀ c ∈ contents, ∀ m ∈ c.held, P m) :
    ∀ m ∈ e.matchers, P m := by
  unfold assemble? at h
  split at h <;> simp only [List.forall_mem_cons, Content.held] at all
  · next op body param grouping without =>
    obtain ⟨p, hp, rfl⟩ := Option.map_eq_some_iff.mp h
    obtain ⟨-, hbody, hparam, -⟩ := all
    rw [matchers, selectors, List.flatMap_append]
    exact List.forall_mem_append.mpr ⟨hbody, forall_matchers_of_expr? hp hparam⟩
  · next op lhs rhs returnBool matching =>
    obtain ⟨v, -, rfl⟩ := Option.map_eq_some_iff.mp h
    obtain ⟨-, hlhs, hrhs, -⟩ := all
    rw [matchers, selectors, List.flatMap_append]
    exact List.forall_mem_append.mpr ⟨hlhs, hrhs⟩
  · next func args =>
    cases h
    exact all.2.1
  · next body range step offset =>
    obtain ⟨s, -, h⟩ := Option.bind_eq_some_iff.mp h
    obtain ⟨o, -, rfl⟩ := Option.map_eq_some_iff.mp h
    exact all.1
  · cases h
    exact all.1
  · cases h
    exact all.2.1
  · cases h
    exact List.forall_mem_nil P
  · cases h
    exact List.forall_mem_nil P
  · cases h
    exact all.1
  · next name ms offset =>
    obtain ⟨n, -, h⟩ := Option.bind_eq_some_iff.mp h
    obtain ⟨o, -, rfl⟩ := Option.map_eq_some_iff.mp h
    rw [matchers, selectors, List.flatMap_singleton]
    exact all.2.1
  · next kind args =>
    cases h
    exact all.2.1
  · cases h

/-- A field that is not there has no matchers. -/
theorem held_of_absent? {f : Field} {c : Content} (h : f.absent? = some c) : c.held = [] := by
  unfold Field.absent? at h
  split at h <;> cases h <;> rfl

/-- A node has the matchers of the fields that are there. -/
theorem forall_held_of_finish {kind : Kind} {found : List (String × Content)} {c : Content}
    (h : finish kind found = .ok c) (all : ∀ x ∈ found, ∀ m ∈ x.2.held, P m) :
    ∀ m ∈ c.held, P m := by
  obtain ⟨contents, e, made, rfl, origin⟩ := exists_assemble?_of_finish h
  refine forall_matchers_of_assemble? made fun d hd => ?_
  rcases origin d hd with ⟨name, there⟩ | ⟨f, absent⟩
  · exact all (name, d) there
  · rw [held_of_absent? absent]
    exact nofun

/-- The matchers of a field without expressions in it have been read from items of a list. -/
theorem forall_held_of_leaf {shape : Shape} {j : Json} {c : Content} (h : shape.leaf j = .ok c)
    (yield : Json.Yield P j.documents) : ∀ m ∈ c.held, P m := by
  cases shape with
  | expr => cases h
  | exprs => cases h
  | matchers =>
    cases j with
    | array items =>
      obtain ⟨ms, read, h⟩ := bind_eq_ok_iff.mp h
      cases h
      intro m hm
      obtain ⟨item, hi, given⟩ := exists_of_mem_mapM_ok read m hm
      refine yield item ?_ m given
      rw [Json.documents]
      exact List.mem_cons_of_mem _ (Json.mem_itemsDocuments hi)
    | _ => cases h
  | _ =>
    obtain ⟨_, -, rfl⟩ := of_require_map_eq_ok h
    exact nofun

/-- The same of the content of a field. -/
theorem forall_held_of_content_leaf {nested : Bool} {shape : Shape} {j : Json} {c : Content}
    (leaf : shape ≠ .expr ∧ shape ≠ .exprs) (h : content nested shape j = .ok c)
    (yield : Json.Yield P j.documents) : ∀ m ∈ c.held, P m :=
  forall_held_of_leaf (content_of_leaf leaf nested j ▸ h) yield

mutual

/-- The matchers of what a document gives have been read from documents inside it. -/
theorem forall_held_of_content {nested : Bool} {shape : Shape} : ∀ {j : Json} {c : Content},
    content nested shape j = .ok c → Json.Yield P j.documents → ∀ m ∈ c.held, P m
  | .object members, c, h, yield => by
    cases shape with
    | expr =>
      rw [content] at h
      rw [Json.documents] at yield
      obtain ⟨kind, -, h⟩ := bind_eq_ok_iff.mp h
      obtain ⟨found, read, h⟩ := bind_eq_ok_iff.mp h
      exact forall_held_of_finish h
        (forall_held_of_memberContents read (List.forall_mem_cons.mp yield).2)
    | exprs => cases h
    | _ => exact forall_held_of_content_leaf (by decide) h yield
  | .array [], c, h, yield => by
    cases shape with
    | expr => cases h
    | exprs =>
      cases h
      exact nofun
    | _ => exact forall_held_of_content_leaf (by decide) h yield
  | .array (tag :: rest), c, h, yield => by
    cases shape with
    | expr =>
      rw [content] at h
      rw [Json.documents, Json.itemsDocuments] at yield
      obtain ⟨kind, -, h⟩ := bind_eq_ok_iff.mp h
      obtain ⟨found, read, h⟩ := bind_eq_ok_iff.mp h
      -- The tag names the kind of the node; only what stands behind it gives fields.
      have behind := (List.forall_mem_append.mp (List.forall_mem_cons.mp yield).2).2
      exact forall_held_of_finish h (forall_held_of_itemContents read behind)
    | exprs =>
      rw [content] at h
      rw [Json.documents] at yield
      obtain ⟨es, read, h⟩ := bind_eq_ok_iff.mp h
      cases h
      exact forall_matchers_of_exprContents read (List.forall_mem_cons.mp yield).2
    | _ => exact forall_held_of_content_leaf (by decide) h yield
  | .null, _, h, yield => forall_held_of_leaf (j := .null) h yield
  | .bool b, _, h, yield => forall_held_of_leaf (j := .bool b) h yield
  | .number n, _, h, yield => forall_held_of_leaf (j := .number n) h yield
  | .string s, _, h, yield => forall_held_of_leaf (j := .string s) h yield

/-- The matchers of what the members of an object give have been read from documents inside them. -/
theorem forall_held_of_memberContents {fields : List Field} : ∀ {seen : List String}
    {members : List (String × Json)} {found : List (String × Content)},
    memberContents fields seen members = .ok found →
      Json.Yield P (Json.membersDocuments members) → ∀ x ∈ found, ∀ m ∈ x.2.held, P m
  | seen, [], found, h, _ => by
    cases h
    exact nofun
  | seen, (name, j) :: rest, found, h, yield => by
    rw [Json.membersDocuments] at yield
    obtain ⟨first, others⟩ := List.forall_mem_append.mp yield
    rcases memberContents_cons_eq_ok h with read | ⟨c, more, given, read, rfl⟩
    · exact forall_held_of_memberContents read others
    · refine List.forall_mem_cons.mpr ⟨?_, forall_held_of_memberContents read others⟩
      rcases given with rfl | ⟨shape, given⟩
      · exact nofun
      · exact forall_held_of_content given first

/-- The matchers of what the items of an array give have been read from documents inside them. -/
theorem forall_held_of_itemContents : ∀ {fields : List Field} {items : List Json}
    {found : List (String × Content)}, itemContents fields items = .ok found →
      Json.Yield P (Json.itemsDocuments items) → ∀ x ∈ found, ∀ m ∈ x.2.held, P m
  | [], [], _, h, _ => by
    cases h
    exact nofun
  | _ :: _, [], _, h, _ => by
    cases h
    exact nofun
  | [], _ :: _, _, h, _ => by cases h
  | f :: fields, j :: rest, found, h, yield => by
    rw [Json.itemsDocuments] at yield
    obtain ⟨first, others⟩ := List.forall_mem_append.mp yield
    obtain ⟨c, more, given, read, rfl⟩ := itemContents_cons_eq_ok h
    refine List.forall_mem_cons.mpr ⟨?_, forall_held_of_itemContents read others⟩
    rcases given with rfl | ⟨shape, given⟩
    · exact nofun
    · exact forall_held_of_content given first

/-- The matchers of the expressions that items give have been read from documents inside them. -/
theorem forall_matchers_of_exprContents : ∀ {items : List Json} {es : List Expr},
    exprContents items = .ok es → Json.Yield P (Json.itemsDocuments items) →
      ∀ m ∈ (listSelectors es).flatMap Selector.matchers, P m
  | [], _, h, _ => by
    cases h
    exact nofun
  | j :: rest, es, h, yield => by
    rw [exprContents] at h
    rw [Json.itemsDocuments] at yield
    obtain ⟨first, others⟩ := List.forall_mem_append.mp yield
    obtain ⟨c, read, h⟩ := bind_eq_ok_iff.mp h
    have front := forall_held_of_content read first
    split at h
    · obtain ⟨behind, more, h⟩ := bind_eq_ok_iff.mp h
      cases h
      rw [listSelectors, List.flatMap_append]
      exact List.forall_mem_append.mpr ⟨front, forall_matchers_of_exprContents more others⟩
    · cases h

end

/-- Every matcher of an expression has been read from a document inside the one that gives the
expression. -/
theorem exists_document_of_mem_matchers {j : Json} {e : Expr} (h : ofJson j = .ok e) :
    ∀ m ∈ e.matchers, ∃ d ∈ j.documents, Matcher.ofJson true d = .ok m := by
  obtain ⟨c, given, h⟩ := bind_eq_ok_iff.mp h
  split at h
  · cases h
    exact forall_held_of_content given fun d hd m read => ⟨d, hd, read⟩
  · cases h

end Expr

namespace Statement

/-- Every field has been read from an entry of the record. -/
theorem exists_entry_of_readFields {seen : List String} {entries : List (String × Json)}
    {fields : List (String × Field)} (h : readFields seen entries = .ok fields) :
    ∀ x ∈ fields, ∃ entry ∈ entries, readField entry.1 entry.2 = .ok x.2 := by
  induction entries generalizing seen fields with
  | nil =>
    cases h
    exact nofun
  | cons entry rest ih =>
    obtain ⟨name, j⟩ := entry
    rw [readFields] at h
    split at h
    · cases h
    · obtain ⟨field, read, h⟩ := bind_eq_ok_iff.mp h
      obtain ⟨more, others, h⟩ := bind_eq_ok_iff.mp h
      cases h
      refine List.forall_mem_cons.mpr ⟨⟨(name, j), List.mem_cons_self, read⟩, fun x hx => ?_⟩
      obtain ⟨entry, he, given⟩ := ih others x hx
      exact ⟨entry, List.mem_cons_of_mem _ he, given⟩

/-- Only a field with an expression is read as one. -/
theorem ofJson_of_readField {name : String} {j : Json} {e : Expr}
    (h : readField name j = .ok (.expr e)) : Expr.ofJson j = .ok e := by
  unfold readField at h
  split at h
  · obtain ⟨e', read, h⟩ := bind_eq_ok_iff.mp h
    cases h
    exact read
  all_goals
    obtain ⟨_, _, h⟩ := Expr.of_require_map_eq_ok h
    cases h

/-- The expression of a statement is the content of one of the fields. -/
theorem mem_of_ofFields? {fields : List (String × Field)} {s : Statement}
    (h : ofFields? fields = some s) : ∃ name, (name, Field.expr s.expr) ∈ fields := by
  obtain ⟨contents, found, h⟩ := Option.bind_eq_some_iff.mp h
  split at h
  · next e start finish interval lookback =>
    cases h
    obtain ⟨name, -, looked⟩ := exists_of_mem_mapM_some found (.expr e) List.mem_cons_self
    obtain ⟨l1, l2, rfl, -⟩ := List.lookup_eq_some_iff.mp looked
    exact ⟨name, by simp⟩
  · cases h

/-- The expression of a statement that a text gives has been read from an entry of the record in the
text. -/
theorem exists_entry_of_ofText {text : String} {s : Statement} (h : ofText text = .ok s) :
    ∃ entry ∈ (Json.streamRecord fieldNames text.toList).entries,
      Expr.ofJson entry.2 = .ok s.expr := by
  obtain ⟨fields, read, h⟩ := bind_eq_ok_iff.mp h
  obtain ⟨left, -, h⟩ := bind_eq_ok_iff.mp h
  obtain ⟨t, made, h⟩ := bind_eq_ok_iff.mp h
  split at h
  · cases h
    obtain ⟨name, field⟩ := mem_of_ofFields? (DecodeFault.require_eq_ok_iff.mp made)
    obtain ⟨entry, he, content⟩ := exists_entry_of_readFields read _ field
    exact ⟨entry, he, ofJson_of_readField content⟩
  · cases h

end Statement

end SelectorGuard
