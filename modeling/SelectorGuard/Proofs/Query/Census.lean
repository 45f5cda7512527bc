import SelectorGuard.Proofs.Query.Sites

/-!
# All selectors and extension nodes of an expression

A census lists every instant selector and every extension node of an expression, at any depth. A
range selector over something else than an instant selector shields what is beneath it from a walk,
and the census tells of each entry whether it is shielded. Treating all selectors that are not
shielded changes the entries one by one and nothing else.
-/

namespace SelectorGuard

/-- An entry of a census. -/
structure Entry where
  /-- The selector or extension node. -/
  site : Site
  /-- It stands beneath a range selector over something else than an instant selector. -/
  shielded : Bool
deriving DecidableEq

namespace Entry

/-- The selector of an entry that is one. -/
def selector? (c : Entry) : Option Selector :=
  c.site.selector?

/-- Treat the selector of an entry unless it is shielded. -/
def map (f : Selector → Selector) (c : Entry) : Entry :=
  if c.shielded then c else { c with site := c.site.map f }

end Entry

namespace Expr

mutual

/-- Every instant selector and extension node of an expression in depth-first order, an extension
node before what is inside it. The flag tells whether the expression as a whole is shielded. -/
def census (shielded : Bool) : Expr → List Entry
  | aggregate _ body param _ _ => census shielded body ++ optionCensus shielded param
  | binary _ lhs rhs _ _ => census shielded lhs ++ census shielded rhs
  | call _ args => listCensus shielded args
  | subquery body _ _ _ => census shielded body
  | paren body => census shielded body
  | unary _ body => census shielded body
  | number _ => []
  | text _ => []
  | matrix body _ => census (shielded || body.selector?.isNone) body
  | vector s => [⟨.selector s, shielded⟩]
  | extension kind args => ⟨.extension kind, shielded⟩ :: listCensus shielded args

/-- The census of expressions one after the other. -/
def listCensus (shielded : Bool) : List Expr → List Entry
  | [] => []
  | e :: rest => census shielded e ++ listCensus shielded rest

/-- The census of an expression that may be missing. -/
def optionCensus (shielded : Bool) : Option Expr → List Entry
  | none => []
  | some e => census shielded e

end

mutual

/-- Treat every selector of an expression, apart from what is shielded. -/
def mapSelectors (f : Selector → Selector) : Expr → Expr
  | aggregate op body param grouping without =>
    aggregate op (mapSelectors f body) (optionMapSelectors f param) grouping without
  | binary op lhs rhs returnBool matching =>
    binary op (mapSelectors f lhs) (mapSelectors f rhs) returnBool matching
  | call func args => call func (listMapSelectors f args)
  | subquery body range step offset => subquery (mapSelectors f body) range step offset
  | paren body => paren (mapSelectors f body)
  | unary op body => unary op (mapSelectors f body)
  | number value => number value
  | text value => text value
  | matrix body range =>
    match body.selector? with
    | some s => matrix (vector (f s)) range
    | none => matrix body range
  | vector s => vector (f s)
  | extension kind args => extension kind (listMapSelectors f args)

/-- Treat every selector of expressions, apart from what is shielded. -/
def listMapSelectors (f : Selector → Selector) : List Expr → List Expr
  | [] => []
  | e :: rest => mapSelectors f e :: listMapSelectors f rest

/-- Treat every selector of an expression that may be missing, apart from what is shielded. -/
def optionMapSelectors (f : Selector → Selector) : Option Expr → Option Expr
  | none => none
  | some e => some (mapSelectors f e)

end

/-! ### The selectors of a census -/

mutual

/-- The selectors of a census are all selectors of the expression, in order. -/
theorem filterMap_census (shielded : Bool) : ∀ e : Expr,
    (census shielded e).filterMap Entry.selector? = selectors e
  | aggregate _ body param _ _ => by
    rw [census, selectors, List.filterMap_append, filterMap_census shielded body,
      filterMap_optionCensus shielded param]
  | binary _ lhs rhs _ _ => by
    rw [census, selectors, List.filterMap_append, filterMap_census shielded lhs,
      filterMap_census shielded rhs]
  | call _ args => filterMap_listCensus shielded args
  | subquery body _ _ _ => filterMap_census shielded body
  | paren body => filterMap_census shielded body
  | unary _ body => filterMap_census shielded body
  | number _ => rfl
  | text _ => rfl
  | matrix body _ => filterMap_census (shielded || body.selector?.isNone) body
  | vector _ => rfl
  | extension _ args => filterMap_listCensus shielded args

/-- The selectors of a census of expressions are all selectors of the expressions, in order. -/
theorem filterMap_listCensus (shielded : Bool) : ∀ es : List Expr,
    (listCensus shielded es).filterMap Entry.selector? = listSelectors es
  | [] => rfl
  | e :: rest => by
    rw [listCensus, listSelectors, List.filterMap_append, filterMap_census shielded e,
      filterMap_listCensus shielded rest]

/-- The selectors of a census of an expression that may be missing are all its selectors. -/
theorem filterMap_optionCensus (shielded : Bool) : ∀ e : Option Expr,
    (optionCensus shielded e).filterMap Entry.selector? = optionSelectors e
  | none => rfl
  | some e => filterMap_census shielded e

end

/-! ### Shielded entries -/

mutual

/-- Everything in an expression that is shielded is shielded. -/
theorem shielded_of_mem_census {c : Entry} : ∀ {e : Expr}, c ∈ census true e → c.shielded = true
  | aggregate _ _ _ _ _, h =>
    (List.mem_append.mp h).elim shielded_of_mem_census shielded_of_mem_optionCensus
  | binary _ _ _ _ _, h =>
    (List.mem_append.mp h).elim shielded_of_mem_census shielded_of_mem_census
  | call _ _, h => shielded_of_mem_listCensus h
  | subquery body _ _ _, h => shielded_of_mem_census (e := body) h
  | paren body, h => shielded_of_mem_census (e := body) h
  | unary _ body, h => shielded_of_mem_census (e := body) h
  | matrix body _, h => shielded_of_mem_census (e := body) h
  | vector _, h => by rw [List.mem_singleton.mp h]
  | extension _ _, h => by
    rcases List.mem_cons.mp h with rfl | h
    · rfl
    · exact shielded_of_mem_listCensus h

/-- Everything in expressions that are shielded is shielded. -/
theorem shielded_of_mem_listCensus {c : Entry} : ∀ {es : List Expr},
    c ∈ listCensus true es → c.shielded = true
  | _ :: _, h => (List.mem_append.mp h).elim shielded_of_mem_census shielded_of_mem_listCensus

/-- Everything in an expression that may be missing is shielded if the expression is. -/
theorem shielded_of_mem_optionCensus {c : Entry} : ∀ {e : Option Expr},
    c ∈ optionCensus true e → c.shielded = true
  | some e, h => shielded_of_mem_census (e := e) h

end

/-! ### Treating all selectors -/

/-- Treating the entries of a shielded expression does nothing. -/
theorem map_census_true (f : Selector → Selector) (e : Expr) :
    (census true e).map (Entry.map f) = census true e := by
  have unchanged : ∀ c ∈ census true e, c.map f = c := fun c hc =>
    if_pos (shielded_of_mem_census hc)
  exact (List.map_congr_left unchanged).trans (List.map_id _)

mutual

/-- Treating the selectors of an expression treats the entries of its census. -/
theorem census_mapSelectors (f : Selector → Selector) : ∀ e : Expr,
    census false (mapSelectors f e) = (census false e).map (Entry.map f)
  | aggregate _ body param _ _ => by
    rw [mapSelectors, census, census, List.map_append, census_mapSelectors f body,
      optionCensus_mapSelectors f param]
  | binary _ lhs rhs _ _ => by
    rw [mapSelectors, census, census, List.map_append, census_mapSelectors f lhs,
      census_mapSelectors f rhs]
  | call _ args => listCensus_mapSelectors f args
  | subquery body _ _ _ => census_mapSelectors f body
  | paren body => census_mapSelectors f body
  | unary _ body => census_mapSelectors f body
  | number _ => rfl
  | text _ => rfl
  | matrix body _ => by
    cases h : body.selector? with
    | none =>
      simp only [mapSelectors, census, h, Option.isNone_none, Bool.or_true]
      exact (map_census_true f body).symm
    | some s =>
      obtain rfl := eq_vector_of_selector? h
      rfl
  | vector _ => rfl
  | extension _ args => congrArg (_ :: ·) (listCensus_mapSelectors f args)

/-- Treating the selectors of expressions treats the entries of their census. -/
theorem listCensus_mapSelectors (f : Selector → Selector) : ∀ es : List Expr,
    listCensus false (listMapSelectors f es) = (listCensus false es).map (Entry.map f)
  | [] => rfl
  | e :: rest => by
    rw [listMapSelectors, listCensus, listCensus, List.map_append, census_mapSelectors f e,
      listCensus_mapSelectors f rest]

/-- Treating the selectors of an expression that may be missing treats the entries of its census. -/
theorem optionCensus_mapSelectors (f : Selector → Selector) : ∀ e : Option Expr,
    optionCensus false (optionMapSelectors f e) = (optionCensus false e).map (Entry.map f)
  | none => rfl
  | some e => census_mapSelectors f e

end

/-! ### Treating twice -/

mutual

/-- Treating all selectors one way and then another treats each of them both ways. -/
theorem mapSelectors_mapSelectors (f g : Selector → Selector) : ∀ e : Expr,
    mapSelectors g (mapSelectors f e) = mapSelectors (fun s => g (f s)) e
  | aggregate _ body param _ _ => by
    simp only [mapSelectors, mapSelectors_mapSelectors f g body,
      optionMapSelectors_optionMapSelectors f g param]
  | binary _ lhs rhs _ _ => by
    simp only [mapSelectors, mapSelectors_mapSelectors f g lhs, mapSelectors_mapSelectors f g rhs]
  | call _ args => congrArg (call _) (listMapSelectors_listMapSelectors f g args)
  | subquery body _ _ _ => congrArg (subquery · _ _ _) (mapSelectors_mapSelectors f g body)
  | paren body => congrArg paren (mapSelectors_mapSelectors f g body)
  | unary _ body => congrArg (unary _) (mapSelectors_mapSelectors f g body)
  | number _ => rfl
  | text _ => rfl
  | matrix body _ => by
    cases h : body.selector? with
    | none => simp only [mapSelectors, h]
    | some s =>
      obtain rfl := eq_vector_of_selector? h
      rfl
  | vector _ => rfl
  | extension _ args => congrArg (extension _) (listMapSelectors_listMapSelectors f g args)

/-- Treating all selectors of expressions one way and then another treats each of them both ways. -/
theorem listMapSelectors_listMapSelectors (f g : Selector → Selector) : ∀ es : List Expr,
    listMapSelectors g (listMapSelectors f es) = listMapSelectors (fun s => g (f s)) es
  | [] => rfl
  | e :: rest => by
    simp only [listMapSelectors, mapSelectors_mapSelectors f g e,
      listMapSelectors_listMapSelectors f g rest]

/-- Treating all selectors of an expression that may be missing one way and then another treats each
of them both ways. -/
theorem optionMapSelectors_optionMapSelectors (f g : Selector → Selector) : ∀ e : Option Expr,
    optionMapSelectors g (optionMapSelectors f e) = optionMapSelectors (fun s => g (f s)) e
  | none => rfl
  | some e => congrArg some (mapSelectors_mapSelectors f g e)

end

/-! ### Expressions in which a walk meets no extension node -/

mutual

/-- If a walk meets no extension node, treating all sites treats all selectors. -/
theorem mapFirst_eq_mapSelectors (f : Selector → Selector) {n : Nat} : ∀ {e : Expr},
    (∀ kind, .extension kind ∉ sites e) → (sites e).length ≤ n →
      mapFirst f n e = mapSelectors f e
  | aggregate _ body param _ _, hx, hn => by
    simp only [sites, List.mem_append, not_or, forall_and, List.length_append] at hx hn
    have inner : mapFirst f n body = mapSelectors f body :=
      mapFirst_eq_mapSelectors f hx.1 (by omega)
    have outer : optionMapFirst f (n - (sites body).length) param = optionMapSelectors f param :=
      optionMapFirst_eq_mapSelectors f hx.2 (by omega)
    rw [mapFirst, mapSelectors, inner, outer]
  | binary _ lhs rhs _ _, hx, hn => by
    simp only [sites, List.mem_append, not_or, forall_and, List.length_append] at hx hn
    have left : mapFirst f n lhs = mapSelectors f lhs :=
      mapFirst_eq_mapSelectors f hx.1 (by omega)
    have right : mapFirst f (n - (sites lhs).length) rhs = mapSelectors f rhs :=
      mapFirst_eq_mapSelectors f hx.2 (by omega)
    rw [mapFirst, mapSelectors, left, right]
  | call _ _, hx, hn => congrArg (call _) (listMapFirst_eq_mapSelectors f hx hn)
  | subquery _ _ _ _, hx, hn => congrArg (subquery · _ _ _) (mapFirst_eq_mapSelectors f hx hn)
  | paren _, hx, hn => congrArg paren (mapFirst_eq_mapSelectors f hx hn)
  | unary _ _, hx, hn => congrArg (unary _) (mapFirst_eq_mapSelectors f hx hn)
  | number _, _, _ => rfl
  | text _, _, _ => rfl
  | matrix body _, _, hn => by
    cases h : body.selector? with
    | none => rw [mapFirst, mapSelectors, h]
    | some s =>
      simp only [sites, h, Option.map_some, Option.toList_some, List.length_singleton] at hn
      have n_ne : n ≠ 0 := by omega
      simp only [mapFirst, mapSelectors, h, if_neg n_ne]
  | vector _, _, hn => by
    simp only [sites, List.length_singleton] at hn
    have n_ne : n ≠ 0 := by omega
    simp only [mapFirst, mapSelectors, if_neg n_ne]
  | extension kind _, hx, _ => absurd (List.mem_singleton.mpr rfl) (hx kind)

/-- If a walk meets no extension node in expressions, treating all sites treats all selectors. -/
theorem listMapFirst_eq_mapSelectors (f : Selector → Selector) {n : Nat} : ∀ {es : List Expr},
    (∀ kind, .extension kind ∉ listSites es) → (listSites es).length ≤ n →
      listMapFirst f n es = listMapSelectors f es
  | [], _, _ => rfl
  | e :: rest, hx, hn => by
    simp only [listSites, List.mem_append, not_or, forall_and, List.length_append] at hx hn
    have head : mapFirst f n e = mapSelectors f e := mapFirst_eq_mapSelectors f hx.1 (by omega)
    have tail : listMapFirst f (n - (sites e).length) rest = listMapSelectors f rest :=
      listMapFirst_eq_mapSelectors f hx.2 (by omega)
    rw [listMapFirst, listMapSelectors, head, tail]

/-- If a walk meets no extension node in an expression that may be missing, treating all sites
treats all selectors. -/
theorem optionMapFirst_eq_mapSelectors (f : Selector → Selector) {n : Nat} : ∀ {e : Option Expr},
    (∀ kind, .extension kind ∉ optionSites e) → (optionSites e).length ≤ n →
      optionMapFirst f n e = optionMapSelectors f e
  | none, _, _ => rfl
  | some _, hx, hn => congrArg some (mapFirst_eq_mapSelectors f hx hn)

end

mutual

/-- If a walk meets no extension node, it meets everything that is not shielded. -/
theorem mem_sites_of_mem_census {c : Entry} (hc : c.shielded = false) : ∀ {e : Expr},
    (∀ kind, .extension kind ∉ sites e) → c ∈ census false e → c.site ∈ sites e
  | aggregate _ _ _ _ _, hx, h => by
    simp only [sites, List.mem_append, not_or, forall_and] at hx ⊢
    exact (List.mem_append.mp h).imp (mem_sites_of_mem_census hc hx.1)
      (mem_optionSites_of_mem_census hc hx.2)
  | binary _ _ _ _ _, hx, h => by
    simp only [sites, List.mem_append, not_or, forall_and] at hx ⊢
    exact (List.mem_append.mp h).imp (mem_sites_of_mem_census hc hx.1)
      (mem_sites_of_mem_census hc hx.2)
  | call _ _, hx, h => mem_listSites_of_mem_census hc hx h
  | subquery body _ _ _, hx, h => mem_sites_of_mem_census hc (e := body) hx h
  | paren body, hx, h => mem_sites_of_mem_census hc (e := body) hx h
  | unary _ body, hx, h => mem_sites_of_mem_census hc (e := body) hx h
  | matrix body _, _, h => by
    cases hs : body.selector? with
    | none =>
      simp only [census, hs, Option.isNone_none, Bool.or_true] at h
      have shielded := shielded_of_mem_census h
      rw [hc] at shielded
      cases shielded
    | some s =>
      obtain rfl := eq_vector_of_selector? hs
      rw [List.mem_singleton.mp h]
      exact List.mem_singleton.mpr rfl
  | vector _, _, h => by
    rw [List.mem_singleton.mp h]
    exact List.mem_singleton.mpr rfl
  | extension kind _, hx, _ => absurd (List.mem_singleton.mpr rfl) (hx kind)

/-- If a walk meets no extension node in expressions, it meets everything that is not shielded. -/
theorem mem_listSites_of_mem_census {c : Entry} (hc : c.shielded = false) : ∀ {es : List Expr},
    (∀ kind, .extension kind ∉ listSites es) → c ∈ listCensus false es → c.site ∈ listSites es
  | _ :: _, hx, h => by
    simp only [listSites, List.mem_append, not_or, forall_and] at hx ⊢
    exact (List.mem_append.mp h).imp (mem_sites_of_mem_census hc hx.1)
      (mem_listSites_of_mem_census hc hx.2)

/-- If a walk meets no extension node in an expression that may be missing, it meets everything that
is not shielded. -/
theorem mem_optionSites_of_mem_census {c : Entry} (hc : c.shielded = false) : ∀ {e : Option Expr},
    (∀ kind, .extension kind ∉ optionSites e) → c ∈ optionCensus false e → c.site ∈ optionSites e
  | some e, hx, h => mem_sites_of_mem_census hc (e := e) hx h

end

/-! ### Expressions that stand for queries -/

mutual

/-- An expression has no extension nodes, and its range selectors are built from instant
selectors. -/
def isPlain : Expr → Bool
  | aggregate _ body param _ _ => isPlain body && optionIsPlain param
  | binary _ lhs rhs _ _ => isPlain lhs && isPlain rhs
  | call _ args => listIsPlain args
  | subquery body _ _ _ => isPlain body
  | paren body => isPlain body
  | unary _ body => isPlain body
  | number _ => true
  | text _ => true
  | matrix body _ => body.selector?.isSome
  | vector _ => true
  | extension _ _ => false

/-- Expressions without extension nodes, whose range selectors are built from instant selectors. -/
def listIsPlain : List Expr → Bool
  | [] => true
  | e :: rest => isPlain e && listIsPlain rest

/-- An expression that is plain or missing. -/
def optionIsPlain : Option Expr → Bool
  | none => true
  | some e => isPlain e

end

mutual

/-- The census of a plain expression lists its selectors, none of them shielded. -/
theorem census_of_isPlain : ∀ {e : Expr}, isPlain e = true →
    census false e = (selectors e).map fun s => ⟨.selector s, false⟩
  | aggregate _ _ _ _ _, h => by
    rw [isPlain, Bool.and_eq_true] at h
    rw [census, selectors, List.map_append, census_of_isPlain h.1, optionCensus_of_isPlain h.2]
  | binary _ _ _ _ _, h => by
    rw [isPlain, Bool.and_eq_true] at h
    rw [census, selectors, List.map_append, census_of_isPlain h.1, census_of_isPlain h.2]
  | call _ _, h => listCensus_of_isPlain h
  | subquery body _ _ _, h => census_of_isPlain (e := body) h
  | paren body, h => census_of_isPlain (e := body) h
  | unary _ body, h => census_of_isPlain (e := body) h
  | number _, _ => rfl
  | text _, _ => rfl
  | matrix _ _, h => by
    obtain ⟨s, hs⟩ := Option.isSome_iff_exists.mp h
    obtain rfl := eq_vector_of_selector? hs
    rfl
  | vector _, _ => rfl

/-- The census of plain expressions lists their selectors, none of them shielded. -/
theorem listCensus_of_isPlain : ∀ {es : List Expr}, listIsPlain es = true →
    listCensus false es = (listSelectors es).map fun s => ⟨.selector s, false⟩
  | [], _ => rfl
  | _ :: _, h => by
    rw [listIsPlain, Bool.and_eq_true] at h
    rw [listCensus, listSelectors, List.map_append, census_of_isPlain h.1,
      listCensus_of_isPlain h.2]

/-- The census of an expression that is plain or missing lists its selectors, none of them
shielded. -/
theorem optionCensus_of_isPlain : ∀ {e : Option Expr}, optionIsPlain e = true →
    optionCensus false e = (optionSelectors e).map fun s => ⟨.selector s, false⟩
  | none, _ => rfl
  | some e, h => census_of_isPlain (e := e) h

end

end Expr

end SelectorGuard
