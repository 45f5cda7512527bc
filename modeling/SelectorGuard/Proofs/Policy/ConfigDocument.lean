import SelectorGuard.Policy.Config
import SelectorGuard.Proofs.Query.Levels
import Mathlib.Data.List.ReduceOption

/-!
# Configurations in documents

An entry of a configuration comes in one of three forms, and no word in a document says which one it
is. The forms are told apart by the names of their fields, and in arrays, which have no names, by
the number of items and by the kind of the second one. No document fits two of them, so it does not
matter which form is tried first. What a configuration is written as is therefore read as this very
configuration, whatever its entries and their texts are.
-/

namespace SelectorGuard

namespace Json

/-- A document is a record that has fields with these names and no others, and this is what stands
in them. -/
def HasFields (names : List String) (values : List Json) (j : Json) : Prop :=
  j.fields? true names = some (values.map some)

/-- Where no item is missing, what is there are the items. -/
theorem eq_of_map_some_append {items values : List Json} {k : Nat}
    (h : items.map some ++ List.replicate k none = values.map some) : items = values := by
  have present := congrArg List.reduceOption h
  have all (js : List Json) : (js.map some).reduceOption = js := by
    rw [List.reduceOption, List.filterMap_map]
    exact List.filterMap_some
  rwa [List.reduceOption_append, List.reduceOption_replicate_none, List.append_nil, all, all]
    at present

/-- An array that is a record has exactly the values of the fields as its items. -/
theorem HasFields.eq_items {names : List String} {values items : List Json}
    (h : HasFields names values (.array items)) : items = values := by
  simp only [HasFields, fields?] at h
  split at h
  · exact eq_of_map_some_append (Option.some.inj h)
  · cases h

/-- An object that is a record has the fields among its members, and there are no others. -/
theorem HasFields.mem_iff_of_object {names : List String} {values : List Json}
    {members : List (String × Json)} (h : HasFields names values (.object members))
    (name : String) : name ∈ names ↔ ∃ m ∈ members, m.1 = name := by
  simp only [HasFields, fields?, Bool.not_true, Bool.false_or] at h
  split at h
  · next sound =>
    have known := List.all_eq_true.mp ((Bool.and_eq_true _ _).mp sound).2
    constructor
    · intro listed
      have found : members.lookup name ∈ values.map some := by
        rw [← Option.some.inj h]
        exact List.mem_map_of_mem listed
      obtain ⟨value, -, there⟩ := List.mem_map.mp found
      obtain ⟨m, hm, same⟩ := List.lookup_isSome_iff.mp (there ▸ rfl :
        (members.lookup name).isSome = true)
      exact ⟨m, hm, (eq_of_beq same).symm⟩
    · rintro ⟨m, hm, rfl⟩
      exact List.contains_iff_mem.mp (known m hm)
  · cases h

/-- A document that is a record with fields of some names and one with fields of others, one of
which the first does not have, is an array, and both have its items in them. -/
theorem HasFields.eq_of_mem_of_notMem {names others : List String} {values contents : List Json}
    {j : Json} {name : String} (h : HasFields names values j) (ho : HasFields others contents j)
    (hn : name ∈ names) (foreign : name ∉ others) : values = contents := by
  cases j with
  -- The items of an array have no names, so both readings take all of them.
  | array items => exact h.eq_items.symm.trans ho.eq_items
  | object members =>
    exact absurd ((ho.mem_iff_of_object name).mpr ((h.mem_iff_of_object name).mp hn)) foreign
  | _ => cases h

end Json

namespace ConfigEntry

open Json (HasFields)

/-- The three forms of an entry. -/
def forms : List (Json → Option ConfigEntry) :=
  [valuesOfJson?, regexOfJson?, explicitOfJson?]

/-! ### What a document that fits a form looks like -/

variable {j : Json} {e : ConfigEntry}

/-- A document that fits the form with values has a label and a list in its fields. -/
theorem hasFields_of_valuesOfJson? (h : valuesOfJson? j = some e) : ∃ label values,
    HasFields ["label", "values"] [label, values] j ∧ values.strings?.isSome = true := by
  obtain ⟨found, fields, h⟩ := Option.bind_eq_some_iff.mp h
  split at h
  · next label values =>
    obtain ⟨name, -, h⟩ := Option.bind_eq_some_iff.mp h
    obtain ⟨vs, listed, -⟩ := Option.bind_eq_some_iff.mp h
    exact ⟨label, values, fields, Option.isSome_of_eq_some listed⟩
  · cases h

/-- A document that fits the form with a pattern has a label and a text in its fields. -/
theorem hasFields_of_regexOfJson? (h : regexOfJson? j = some e) : ∃ label pattern,
    HasFields ["label", "regex"] [label, pattern] j ∧ pattern.string?.isSome = true := by
  obtain ⟨found, fields, h⟩ := Option.bind_eq_some_iff.mp h
  split at h
  · next label pattern =>
    obtain ⟨name, -, h⟩ := Option.bind_eq_some_iff.mp h
    obtain ⟨source, spelled, -⟩ := Option.bind_eq_some_iff.mp h
    exact ⟨label, pattern, fields, Option.isSome_of_eq_some spelled⟩
  · cases h

/-- A document that fits the form with the parts of a matcher has three fields. -/
theorem hasFields_of_explicitOfJson? (h : explicitOfJson? j = some e) :
    ∃ label op value, HasFields ["label", "op", "value"] [label, op, value] j := by
  obtain ⟨found, fields, h⟩ := Option.bind_eq_some_iff.mp h
  split at h
  · exact ⟨_, _, _, fields⟩
  · cases h

/-- A list of texts is no text. -/
theorem string?_eq_none_of_strings? {value : Json} (h : value.strings?.isSome = true) :
    value.string? = none := by
  cases value with
  | string s => cases h
  | _ => rfl

/-! ### No document fits two forms -/

/-- What fits the form with values does not fit the one with a pattern: of an array, the second item
would be both a list and a text. -/
theorem values_apart_regex (j : Json) : valuesOfJson? j = none ∨ regexOfJson? j = none := by
  refine eq_none_or_eq_none fun e d he hd => ?_
  obtain ⟨label, values, hv, listed⟩ := hasFields_of_valuesOfJson? he
  obtain ⟨name, pattern, hp, spelled⟩ := hasFields_of_regexOfJson? hd
  have same : [label, values] = [name, pattern] :=
    hv.eq_of_mem_of_notMem hp (by decide : "values" ∈ _) (by decide)
  obtain rfl : values = pattern := (List.cons.inj (List.cons.inj same).2).1
  rw [string?_eq_none_of_strings? listed] at spelled
  cases spelled

/-- What fits the form with values does not fit the one with three fields. -/
theorem values_apart_explicit (j : Json) : valuesOfJson? j = none ∨ explicitOfJson? j = none := by
  refine eq_none_or_eq_none fun e d he hd => ?_
  obtain ⟨label, values, hv, -⟩ := hasFields_of_valuesOfJson? he
  obtain ⟨name, op, value, hx⟩ := hasFields_of_explicitOfJson? hd
  have same : [label, values] = [name, op, value] :=
    hv.eq_of_mem_of_notMem hx (by decide : "values" ∈ _) (by decide)
  simp at same

/-- What fits the form with a pattern does not fit the one with three fields. -/
theorem regex_apart_explicit (j : Json) : regexOfJson? j = none ∨ explicitOfJson? j = none := by
  refine eq_none_or_eq_none fun e d he hd => ?_
  obtain ⟨label, pattern, hp, -⟩ := hasFields_of_regexOfJson? he
  obtain ⟨name, op, value, hx⟩ := hasFields_of_explicitOfJson? hd
  have same : [label, pattern] = [name, op, value] :=
    hp.eq_of_mem_of_notMem hx (by decide : "regex" ∈ _) (by decide)
  simp at same

/-- No document fits two forms of an entry. -/
theorem forms_apart (j : Json) : forms.Pairwise fun f g => f j = none ∨ g j = none := by
  simp only [forms, List.pairwise_cons, List.mem_cons, List.not_mem_nil, or_false, forall_eq_or_imp,
    forall_eq, false_imp_iff, implies_true, List.Pairwise.nil, and_true]
  exact ⟨⟨values_apart_regex j, values_apart_explicit j⟩, regex_apart_explicit j⟩

/-- In whatever order the forms are tried, a document gives the entry of the one form that it
fits. -/
theorem findSome?_eq_some_iff_of_perm {order : List (Json → Option ConfigEntry)}
    (h : order.Perm forms) :
    order.findSome? (fun f => f j) = some e ↔ ∃ f ∈ forms, f j = some e := by
  have apart : order.Pairwise fun f g => f j = none ∨ g j = none :=
    h.symm.pairwise (forms_apart j) Or.symm
  simp only [findSome?_eq_some_iff_of_apart apart, h.mem_iff]

/-- Reading an entry tries the forms one after the other. -/
theorem ofJson?_eq_findSome? (j : Json) : ofJson? j = forms.findSome? fun f => f j := by
  simp only [ofJson?, forms, List.findSome?_cons, List.findSome?_nil]
  cases valuesOfJson? j with
  | some e => rfl
  | none =>
    cases regexOfJson? j with
    | some e => rfl
    | none => cases explicitOfJson? j <;> rfl

/-- Reading an entry gives the entry of the one form that the document fits. -/
theorem ofJson?_eq_some_iff : ofJson? j = some e ↔ ∃ f ∈ forms, f j = some e := by
  rw [ofJson?_eq_findSome?, findSome?_eq_some_iff_of_perm (.refl forms)]

/-! ### An entry is read from its document -/

/-- Every entry fits its own form. -/
theorem ofJson?_toJson (e : ConfigEntry) : ofJson? e.toJson = some e := by
  -- That no other form takes the document first need not be shown again: the forms are apart.
  refine ofJson?_eq_some_iff.mpr ?_
  cases e with
  | values label vs =>
    have fields : (values label vs).toJson.fields? true ["label", "values"] =
        some [some (.string label), some (.ofStrings vs)] :=
      rfl
    refine ⟨valuesOfJson?, by simp [forms], ?_⟩
    simp only [valuesOfJson?, fields, Option.bind_eq_bind, Option.bind_some, Json.string?,
      Json.strings?_ofStrings, Option.pure_def]
  | regex label pattern =>
    have fields : (regex label pattern).toJson.fields? true ["label", "regex"] =
        some [some (.string label), some (.string pattern)] :=
      rfl
    refine ⟨regexOfJson?, by simp [forms], ?_⟩
    simp only [regexOfJson?, fields, Option.bind_eq_bind, Option.bind_some, Json.string?,
      Option.pure_def]
  | explicit label kind value =>
    have fields : (explicit label kind value).toJson.fields? true ["label", "op", "value"] =
        some [some (.string label), some (.string kind.keyword), some (.string value)] :=
      rfl
    have op : MatchKind.ofJson? false (.string kind.keyword) = some kind := by
      cases kind <;> rfl
    refine ⟨explicitOfJson?, by simp [forms], ?_⟩
    simp only [explicitOfJson?, fields, Option.bind_eq_bind, Option.bind_some, Json.string?, op,
      Option.pure_def]

/-- Entries are read as themselves. -/
theorem mapM_ofJson?_toJson (es : List ConfigEntry) :
    (es.map toJson).mapM ofJson? = some es := by
  have each : ofJson? ∘ toJson = pure := funext ofJson?_toJson
  rw [List.mapM_map, each]
  exact List.mapM_pure.trans (congrArg some (List.map_id es))

/-- There are no numbers in an entry. -/
theorem numerals_toJson (e : ConfigEntry) : e.toJson.numerals = [] := by
  cases e <;> simp [toJson, Json.numerals, Json.membersNumerals]

/-- An entry has two levels at most. -/
theorem depth_toJson_le (e : ConfigEntry) : e.toJson.depth ≤ 2 := by
  cases e <;> simp [toJson, Json.depth, Json.membersDepth, Json.depth_ofStrings]

end ConfigEntry

namespace PolicyConfig

/-- A configuration is read from its document. -/
theorem ofJson?_toJson (c : PolicyConfig) : ofJson? c.toJson = some c := by
  obtain ⟨strict, entries⟩ := c
  have fields : (toJson ⟨strict, entries⟩).fields? true ["strict", "matchers"] =
      some [some (.bool strict), some (.array (entries.map ConfigEntry.toJson))] :=
    rfl
  simp only [ofJson?, fields, Option.bind_eq_bind, Option.bind_some, Json.orDefault, Json.bool?,
    ConfigEntry.mapM_ofJson?_toJson, Option.pure_def]

/-- There are no numbers in a configuration. -/
theorem numerals_toJson (c : PolicyConfig) : c.toJson.numerals = [] := by
  have none : Json.itemsNumerals (c.entries.map ConfigEntry.toJson) = [] := by
    refine Json.itemsNumerals_eq_nil fun j hj => ?_
    obtain ⟨e, -, rfl⟩ := List.mem_map.mp hj
    exact e.numerals_toJson
  simp [toJson, Json.numerals, Json.membersNumerals, none]

/-- A configuration has four levels at most. -/
theorem depth_toJson_le (c : PolicyConfig) : c.toJson.depth ≤ 4 := by
  have flat : Json.itemsDepth (c.entries.map ConfigEntry.toJson) ≤ 2 := by
    refine Json.itemsDepth_le_of_forall fun j hj => ?_
    obtain ⟨e, -, rfl⟩ := List.mem_map.mp hj
    exact e.depth_toJson_le
  simp only [toJson, Json.depth, Json.membersDepth]
  omega

/-- The reader accepts the document of a configuration. -/
theorem fits_toJson (c : PolicyConfig) : Json.Fits Json.depthLimit c.toJson := by
  refine ⟨Nat.le_trans c.depth_toJson_le (by decide), ?_⟩
  rw [numerals_toJson]
  exact nofun

/-- A text that is read as the document of a configuration, to its end, gives the configuration. -/
theorem ofText_eq_ok_of_readPrefix {c : PolicyConfig} {text : String}
    (read : Json.readPrefix text.toList =
      if Json.Fits Json.depthLimit c.toJson then some (c.toJson, []) else none) :
    ofText text = .ok c := by
  rw [if_pos c.fits_toJson] at read
  have whole : Json.read? text = some c.toJson := by
    rw [Json.read?, read]
    rfl
  rw [ofText, whole, Option.bind_some, ofJson?_toJson]

/-- No document fits two of the three forms of an entry, so that the forms may be tried in any
order; and a configuration is read from the text of its document, in either layout. -/
theorem entry_forms_apart_and_ofText_toJson :
    (∀ j : Json,
      (ConfigEntry.forms.Pairwise fun f g => f j = none ∨ g j = none) ∧
      ∀ order : List (Json → Option ConfigEntry), order.Perm ConfigEntry.forms →
        order.findSome? (fun f => f j) = ConfigEntry.ofJson? j) ∧
    ∀ c : PolicyConfig, ofText c.toJson.render = .ok c ∧ ofText c.toJson.renderPretty = .ok c := by
  refine ⟨fun j => ⟨ConfigEntry.forms_apart j, fun order h => ?_⟩, fun c => ?_⟩
  · refine Option.ext fun e => ?_
    rw [ConfigEntry.findSome?_eq_some_iff_of_perm h, ConfigEntry.ofJson?_eq_some_iff]
  · have sound : ∀ n ∈ c.toJson.numerals, n.WellFormed := by
      rw [numerals_toJson]
      exact nofun
    exact ⟨ofText_eq_ok_of_readPrefix (Json.readPrefix_render sound),
      ofText_eq_ok_of_readPrefix (Json.readPrefix_renderPretty sound)⟩

/-- An object with its members in another order, tried with the last form first, and an array. -/
theorem entry_forms_apart_and_ofText_toJson_of_reversed :
    let teams : Json := .object [("value", .string "ops"), ("op", .string "not_equal"),
      ("label", .string "team")]
    let c : PolicyConfig := ⟨true, [.values "tenant" ["acme", "\"b\\"], .regex "env" "prod|staging",
      .explicit "team" .notEqual "ops"]⟩
    ConfigEntry.forms.reverse.Perm ConfigEntry.forms ∧
    ConfigEntry.forms.reverse.findSome? (fun f => f teams) =
      some (.explicit "team" .notEqual "ops") ∧
    ConfigEntry.forms.reverse.findSome? (fun f => f (.array [.string "env", .string "a.*"])) =
      some (.regex "env" "a.*") ∧
    ofText c.toJson.render = .ok c ∧ ofText c.toJson.renderPretty = .ok c := by
  intro teams c
  have reversed : ConfigEntry.forms.reverse.Perm ConfigEntry.forms := List.reverse_perm _
  have each := entry_forms_apart_and_ofText_toJson.1
  refine ⟨reversed, ?_, ?_, entry_forms_apart_and_ofText_toJson.2 c⟩
  · rw [(each teams).2 _ reversed]
    decide
  · rw [(each _).2 _ reversed]
    decide

end PolicyConfig

end SelectorGuard
