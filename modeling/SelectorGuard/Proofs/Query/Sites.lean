import SelectorGuard.Query.Expr

/-!
# Where a walk acts on an expression

A walk acts on instant selectors and stops at extension nodes. These are the sites of an expression,
listed in the order in which a walk comes to them. What a walk does to the tree is said by treating
the selectors among the first so many sites and leaving everything else as it is. None of this
speaks of policies.
-/

namespace SelectorGuard

/-- A node at which a walk acts. -/
inductive Site where
  /-- An instant selector. -/
  | selector (s : Selector)
  /-- An extension node of some kind. -/
  | extension (kind : String)
deriving DecidableEq

namespace Site

/-- The selector of a site that is one. -/
def selector? : Site → Option Selector
  | selector s => some s
  | extension _ => none

/-- Treat the selector of a site. An extension node stays. -/
def map (f : Selector → Selector) : Site → Site
  | selector s => selector (f s)
  | extension kind => extension kind

/-- Treat the selectors among the first sites of a list. -/
def mapFirst (f : Selector → Selector) (n : Nat) (sites : List Site) : List Site :=
  (sites.take n).map (map f) ++ sites.drop n

/-- Treating the first sites of two lists treats those of the first list, and what is left of the
number in the second one. -/
theorem mapFirst_append (f : Selector → Selector) (n : Nat) (sites more : List Site) :
    mapFirst f n (sites ++ more) = mapFirst f n sites ++ mapFirst f (n - sites.length) more := by
  unfold mapFirst
  rw [List.take_append, List.drop_append, List.map_append]
  rcases Nat.le_total sites.length n with h | h
  · rw [List.drop_eq_nil_of_le h]
    simp only [List.nil_append, List.append_nil, List.append_assoc]
  · rw [Nat.sub_eq_zero_of_le h]
    simp only [List.take_zero, List.map_nil, List.append_nil, List.nil_append, List.append_assoc]

end Site

namespace Expr

/-- The selector that an expression is, if it is nothing but an instant selector. -/
def selector? : Expr → Option Selector
  | vector s => some s
  | _ => none

/-- An expression that is a selector is built from it. -/
theorem eq_vector_of_selector? {e : Expr} {s : Selector} (h : e.selector? = some s) :
    e = vector s := by
  cases e <;> cases h
  rfl

mutual

/-- The sites of an expression in the order of a walk: an aggregation has its expression before its
parameter, a range selector has the instant selector that it is built from and else nothing, and
what is inside an extension node does not count. -/
def sites : Expr → List Site
  | aggregate _ body param _ _ => sites body ++ optionSites param
  | binary _ lhs rhs _ _ => sites lhs ++ sites rhs
  | call _ args => listSites args
  | subquery body _ _ _ => sites body
  | paren body => sites body
  | unary _ body => sites body
  | number _ => []
  | text _ => []
  | matrix body _ => (body.selector?.map Site.selector).toList
  | vector s => [.selector s]
  | extension kind _ => [.extension kind]

/-- The sites of expressions one after the other. -/
def listSites : List Expr → List Site
  | [] => []
  | e :: rest => sites e ++ listSites rest

/-- The sites of an expression that may be missing. -/
def optionSites : Option Expr → List Site
  | none => []
  | some e => sites e

end

mutual

/-- Treat the selectors among the first `n` sites. A node with several parts gives each part what
is left of the number. -/
def mapFirst (f : Selector → Selector) (n : Nat) : Expr → Expr
  | aggregate op body param grouping without =>
    aggregate op (mapFirst f n body) (optionMapFirst f (n - (sites body).length) param) grouping
      without
  | binary op lhs rhs returnBool matching =>
    binary op (mapFirst f n lhs) (mapFirst f (n - (sites lhs).length) rhs) returnBool matching
  | call func args => call func (listMapFirst f n args)
  | subquery body range step offset => subquery (mapFirst f n body) range step offset
  | paren body => paren (mapFirst f n body)
  | unary op body => unary op (mapFirst f n body)
  | number value => number value
  | text value => text value
  | matrix body range =>
    match body.selector? with
    | some s => matrix (vector (if n = 0 then s else f s)) range
    | none => matrix body range
  | vector s => vector (if n = 0 then s else f s)
  | extension kind args => extension kind args

/-- Treat the selectors among the first `n` sites of expressions one after the other. -/
def listMapFirst (f : Selector → Selector) (n : Nat) : List Expr → List Expr
  | [] => []
  | e :: rest => mapFirst f n e :: listMapFirst f (n - (sites e).length) rest

/-- Treat the selectors among the first `n` sites of an expression that may be missing. -/
def optionMapFirst (f : Selector → Selector) (n : Nat) : Option Expr → Option Expr
  | none => none
  | some e => some (mapFirst f n e)

end

variable (f : Selector → Selector)

/-! ### Treating no site -/

mutual

/-- Treating no site leaves an expression as it is. -/
theorem mapFirst_zero : ∀ e : Expr, mapFirst f 0 e = e
  | aggregate _ body param _ _ => by
    simp only [mapFirst, Nat.zero_sub, mapFirst_zero body, optionMapFirst_zero param]
  | binary _ lhs rhs _ _ => by
    simp only [mapFirst, Nat.zero_sub, mapFirst_zero lhs, mapFirst_zero rhs]
  | call _ args => by simp only [mapFirst, listMapFirst_zero args]
  | subquery body _ _ _ => by simp only [mapFirst, mapFirst_zero body]
  | paren body => by simp only [mapFirst, mapFirst_zero body]
  | unary _ body => by simp only [mapFirst, mapFirst_zero body]
  | number _ => rfl
  | text _ => rfl
  | matrix body range => by
    cases h : body.selector? with
    | none => simp only [mapFirst, h]
    | some s =>
      obtain rfl := eq_vector_of_selector? h
      rfl
  | vector _ => rfl
  | extension _ _ => rfl

/-- Treating no site leaves expressions as they are. -/
theorem listMapFirst_zero : ∀ es : List Expr, listMapFirst f 0 es = es
  | [] => rfl
  | e :: rest => by
    simp only [listMapFirst, Nat.zero_sub, mapFirst_zero e, listMapFirst_zero rest]

/-- Treating no site leaves an expression that may be missing as it is. -/
theorem optionMapFirst_zero : ∀ e : Option Expr, optionMapFirst f 0 e = e
  | none => rfl
  | some e => by simp only [optionMapFirst, mapFirst_zero e]

end

/-! ### Treating all sites -/

mutual

/-- Numbers that reach over all sites treat the same selectors. -/
theorem mapFirst_eq_of_length_le {n k : Nat} : ∀ {e : Expr}, (sites e).length ≤ n →
    (sites e).length ≤ k → mapFirst f n e = mapFirst f k e
  | aggregate _ body param _ _, hn, hk => by
    simp only [sites, List.length_append] at hn hk
    have inner : mapFirst f n body = mapFirst f k body :=
      mapFirst_eq_of_length_le (by omega) (by omega)
    have outer : optionMapFirst f (n - (sites body).length) param =
        optionMapFirst f (k - (sites body).length) param :=
      optionMapFirst_eq_of_length_le (by omega) (by omega)
    simp only [mapFirst, inner, outer]
  | binary _ lhs rhs _ _, hn, hk => by
    simp only [sites, List.length_append] at hn hk
    have left : mapFirst f n lhs = mapFirst f k lhs :=
      mapFirst_eq_of_length_le (by omega) (by omega)
    have right : mapFirst f (n - (sites lhs).length) rhs =
        mapFirst f (k - (sites lhs).length) rhs :=
      mapFirst_eq_of_length_le (by omega) (by omega)
    simp only [mapFirst, left, right]
  | call _ _, hn, hk => congrArg (call _) (listMapFirst_eq_of_length_le hn hk)
  | subquery _ _ _ _, hn, hk =>
    congrArg (subquery · _ _ _) (mapFirst_eq_of_length_le hn hk)
  | paren _, hn, hk => congrArg paren (mapFirst_eq_of_length_le hn hk)
  | unary _ _, hn, hk => congrArg (unary _) (mapFirst_eq_of_length_le hn hk)
  | number _, _, _ => rfl
  | text _, _, _ => rfl
  | matrix body _, hn, hk => by
    cases h : body.selector? with
    | none => simp only [mapFirst, h]
    | some s =>
      simp only [sites, h, Option.map_some, Option.toList_some, List.length_singleton] at hn hk
      have n_ne : n ≠ 0 := by omega
      have k_ne : k ≠ 0 := by omega
      simp only [mapFirst, h, if_neg n_ne, if_neg k_ne]
  | vector _, hn, hk => by
    simp only [sites, List.length_singleton] at hn hk
    have n_ne : n ≠ 0 := by omega
    have k_ne : k ≠ 0 := by omega
    simp only [mapFirst, if_neg n_ne, if_neg k_ne]
  | extension _ _, _, _ => rfl

/-- Numbers that reach over all sites of expressions treat the same selectors. -/
theorem listMapFirst_eq_of_length_le {n k : Nat} : ∀ {es : List Expr},
    (listSites es).length ≤ n → (listSites es).length ≤ k →
      listMapFirst f n es = listMapFirst f k es
  | [], _, _ => rfl
  | e :: rest, hn, hk => by
    simp only [listSites, List.length_append] at hn hk
    have head : mapFirst f n e = mapFirst f k e :=
      mapFirst_eq_of_length_le (by omega) (by omega)
    have tail : listMapFirst f (n - (sites e).length) rest =
        listMapFirst f (k - (sites e).length) rest :=
      listMapFirst_eq_of_length_le (by omega) (by omega)
    simp only [listMapFirst, head, tail]

/-- Numbers that reach over all sites of an expression that may be missing treat the same
selectors. -/
theorem optionMapFirst_eq_of_length_le {n k : Nat} : ∀ {e : Option Expr},
    (optionSites e).length ≤ n → (optionSites e).length ≤ k →
      optionMapFirst f n e = optionMapFirst f k e
  | none, _, _ => rfl
  | some _, hn, hk => congrArg some (mapFirst_eq_of_length_le hn hk)

end

/-! ### The sites afterwards -/

mutual

/-- Treating the first sites of an expression treats the first ones in its list of sites. -/
theorem sites_mapFirst (n : Nat) : ∀ e : Expr,
    sites (mapFirst f n e) = Site.mapFirst f n (sites e)
  | aggregate _ body param _ _ => by
    simp only [mapFirst, sites, Site.mapFirst_append, sites_mapFirst n body,
      optionSites_mapFirst _ param]
  | binary _ lhs rhs _ _ => by
    simp only [mapFirst, sites, Site.mapFirst_append, sites_mapFirst n lhs, sites_mapFirst _ rhs]
  | call _ args => listSites_mapFirst n args
  | subquery body _ _ _ => sites_mapFirst n body
  | paren body => sites_mapFirst n body
  | unary _ body => sites_mapFirst n body
  | number _ => by simp [mapFirst, sites, Site.mapFirst]
  | text _ => by simp [mapFirst, sites, Site.mapFirst]
  | matrix body _ => by
    cases h : body.selector? with
    | none => simp [mapFirst, sites, Site.mapFirst, h]
    | some s =>
      obtain rfl := eq_vector_of_selector? h
      cases n <;> simp [mapFirst, sites, selector?, Site.mapFirst, Site.map]
  | vector _ => by cases n <;> simp [mapFirst, sites, Site.mapFirst, Site.map]
  | extension _ _ => by cases n <;> simp [mapFirst, sites, Site.mapFirst, Site.map]

/-- Treating the first sites of expressions treats the first ones in their list of sites. -/
theorem listSites_mapFirst (n : Nat) : ∀ es : List Expr,
    listSites (listMapFirst f n es) = Site.mapFirst f n (listSites es)
  | [] => by simp [listMapFirst, listSites, Site.mapFirst]
  | e :: rest => by
    simp only [listMapFirst, listSites, Site.mapFirst_append, sites_mapFirst n e,
      listSites_mapFirst _ rest]

/-- Treating the first sites of an expression that may be missing treats the first ones in its list
of sites. -/
theorem optionSites_mapFirst (n : Nat) : ∀ e : Option Expr,
    optionSites (optionMapFirst f n e) = Site.mapFirst f n (optionSites e)
  | none => by simp [optionMapFirst, optionSites, Site.mapFirst]
  | some e => sites_mapFirst n e

end

end Expr

end SelectorGuard
