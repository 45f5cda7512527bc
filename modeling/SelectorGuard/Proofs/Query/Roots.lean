import SelectorGuard.Proofs.Query.Census
import SelectorGuard.Query.Root

/-!
# Sites and census of roots

What is said of the sites and the census of an expression holds of a statement, which has those of
its expression, and of several expressions, which have them one after the other.
-/

namespace SelectorGuard.Root

/-- The sites of a root in the order of a walk. -/
def sites : Root → List Site
  | statement s => s.expr.sites
  | expressions es => Expr.listSites es
  | expr e => e.sites

/-- Every instant selector and extension node of a root. -/
def census : Root → List Entry
  | statement s => s.expr.census false
  | expressions es => Expr.listCensus false es
  | expr e => e.census false

/-- Treat the selectors among the first `n` sites of a root. -/
def mapFirst (f : Selector → Selector) (n : Nat) : Root → Root
  | statement s => statement { s with expr := s.expr.mapFirst f n }
  | expressions es => expressions (Expr.listMapFirst f n es)
  | expr e => expr (e.mapFirst f n)

/-- Treat every selector of a root, apart from what is shielded. -/
def mapSelectors (f : Selector → Selector) : Root → Root
  | statement s => statement { s with expr := s.expr.mapSelectors f }
  | expressions es => expressions (Expr.listMapSelectors f es)
  | expr e => expr (e.mapSelectors f)

/-- The selectors of a census are all selectors of the root, in order. -/
theorem filterMap_census (root : Root) : root.census.filterMap Entry.selector? = root.selectors := by
  cases root with
  | statement s => exact Expr.filterMap_census false s.expr
  | expressions es => exact Expr.filterMap_listCensus false es
  | expr e => exact Expr.filterMap_census false e

variable (f : Selector → Selector)

/-- Treating the first sites of a root treats the first ones in its list of sites. -/
theorem sites_mapFirst (n : Nat) (root : Root) :
    (root.mapFirst f n).sites = Site.mapFirst f n root.sites := by
  cases root with
  | statement s => exact Expr.sites_mapFirst f n s.expr
  | expressions es => exact Expr.listSites_mapFirst f n es
  | expr e => exact Expr.sites_mapFirst f n e

/-- Treating the selectors of a root treats the entries of its census. -/
theorem census_mapSelectors (root : Root) :
    (root.mapSelectors f).census = root.census.map (Entry.map f) := by
  cases root with
  | statement s => exact Expr.census_mapSelectors f s.expr
  | expressions es => exact Expr.listCensus_mapSelectors f es
  | expr e => exact Expr.census_mapSelectors f e

/-- If a walk meets no extension node in a root, treating all sites treats all selectors. -/
theorem mapFirst_eq_mapSelectors {root : Root} (hx : ∀ kind, .extension kind ∉ root.sites) :
    root.mapFirst f root.sites.length = root.mapSelectors f := by
  cases root with
  | statement s =>
    have inner := Expr.mapFirst_eq_mapSelectors f hx (Nat.le_refl _)
    rw [mapFirst, mapSelectors, sites, inner]
  | expressions es =>
    exact congrArg expressions (Expr.listMapFirst_eq_mapSelectors f hx (Nat.le_refl _))
  | expr e => exact congrArg expr (Expr.mapFirst_eq_mapSelectors f hx (Nat.le_refl _))

/-- If a walk meets no extension node in a root, treating all selectors treats all sites. -/
theorem sites_mapSelectors {root : Root} (hx : ∀ kind, .extension kind ∉ root.sites) :
    (root.mapSelectors f).sites = root.sites.map (Site.map f) := by
  rw [← mapFirst_eq_mapSelectors f hx, sites_mapFirst, Site.mapFirst, List.take_length,
    List.drop_length, List.append_nil]

/-- Treating all selectors of a root one way and then another treats each of them both ways. -/
theorem mapSelectors_mapSelectors (g : Selector → Selector) (root : Root) :
    (root.mapSelectors f).mapSelectors g = root.mapSelectors fun s => g (f s) := by
  cases root with
  | statement s =>
    simp only [mapSelectors, Expr.mapSelectors_mapSelectors]
  | expressions es => exact congrArg expressions (Expr.listMapSelectors_listMapSelectors f g es)
  | expr e => exact congrArg expr (Expr.mapSelectors_mapSelectors f g e)

/-- If a walk meets no extension node in a root, it meets everything that is not shielded. -/
theorem mem_sites_of_mem_census {root : Root} {c : Entry} (hc : c.shielded = false)
    (hx : ∀ kind, .extension kind ∉ root.sites) (h : c ∈ root.census) : c.site ∈ root.sites := by
  cases root with
  | statement s => exact Expr.mem_sites_of_mem_census hc hx h
  | expressions es => exact Expr.mem_listSites_of_mem_census hc hx h
  | expr e => exact Expr.mem_sites_of_mem_census hc hx h

end SelectorGuard.Root
