import SelectorGuard.Proofs.Enforcement.Scope
import SelectorGuard.Proofs.Query.Braces

/-!
# The query text that is forwarded

What reaches the database is text. In the text of a query on which a policy has been enforced every
pair of braces holds the matchers of the policy as its last ones, and the texts of the query cannot
open braces of their own.
-/

namespace SelectorGuard

open Text (Scan)
open Text.Scan (Quiet)

/-- Texts with a comma and a blank between them are joined by these two characters. -/
theorem commaSeparated_eq_intercalate (texts : List (List Char)) :
    commaSeparated texts = [',', ' '].intercalate texts := by
  induction texts with
  | nil => rfl
  | cons first rest ih =>
    cases rest with
    | nil => exact List.intercalate_singleton.symm
    | cons second more =>
      rw [List.intercalate_cons_cons, ← ih]
      rfl

/-- Lists of texts that both hold some are joined by a comma and a blank. -/
theorem commaSeparated_append {texts more : List (List Char)} (ht : texts ≠ []) (hm : more ≠ []) :
    commaSeparated (texts ++ more) = commaSeparated texts ++ [',', ' '] ++ commaSeparated more := by
  induction texts with
  | nil => exact absurd rfl ht
  | cons first rest ih =>
    cases rest with
    | nil =>
      obtain ⟨second, others, rfl⟩ := List.exists_cons_of_ne_nil hm
      rfl
    | cons second others =>
      have tail := ih (List.cons_ne_nil second others)
      rw [List.cons_append] at tail
      simp only [List.cons_append, commaSeparated, tail, List.append_assoc]

namespace Policy

/-- What stands between braces ends with the required matchers in their canonical forms. They are
joined by commas and blanks, and nothing stands before them unless a comma and a blank outside
literals separate it from them. -/
def EndsWithRules (p : Policy) (body : List Char) : Prop :=
  ∃ front, (front = [] ∨
      ∃ own, front = own ++ [',', ' '] ∧ Scan.outside.after own = .outside) ∧
    body = front ++ [',', ' '].intercalate (p.rules.map fun r => r.canonical.toList)

/-- A selector that a policy has been enforced on is written with one pair of braces, between which
the required matchers come last. -/
theorem braced_bodyChars_settle {p : Policy} (required : p.rules ≠ []) (s : Selector) :
    Braced p.EndsWithRules 1 (p.settle s).bodyChars := by
  have filled : (p.settle s).matchers ≠ [] := List.append_ne_nil_of_right_ne_nil _ required
  have canonical : (p.rules.map fun r => r.canonical.toList) = p.rules.map Matcher.chars :=
    List.map_congr_left fun r _ => String.toList_ofList
  obtain ⟨name, first, outer, quiet, eq⟩ := Selector.bodyChars_eq filled
  have group := quiet_commaSeparated quiet
  rw [eq]
  refine (Braced.of_quiet outer).append (Braced.curly group ?_)
  rw [EndsWithRules, canonical, ← commaSeparated_eq_intercalate]
  -- What the selector keeps stands in front, with a constraint on the metric name if there is one.
  rw [settle, merged, List.map_append, ← List.append_assoc] at quiet ⊢
  generalize first ++ List.map Matcher.chars _ = own at quiet ⊢
  cases own with
  | nil => exact ⟨[], Or.inl rfl, rfl⟩
  | cons cs more =>
    have kept := quiet_commaSeparated fun cs hcs => quiet cs (List.mem_append_left _ hcs)
    exact ⟨_, Or.inr ⟨_, rfl, kept.1⟩, commaSeparated_append (List.cons_ne_nil cs more)
      (mt List.map_eq_nil_iff.mp required)⟩

/-- When a policy that requires something has been enforced on a query without extension nodes whose
range selectors are built from instant selectors, its text is scoped. A scanner that knows nothing
of query text but its literals ends outside them, and outside them it meets one opening brace for
each selector. The next bracket that it meets closes the brace, and between the two the required
matchers stand last. No text in the query can hide them or open braces without them. -/
theorem enforce_render_is_scoped (p : Policy) (e : Expr) (plain : e.isPlain = true)
    (required : p.rules ≠ []) (h : (p.enforce e).outcome = .done) :
    let text := (p.enforce e).result.render.toList
    Scan.outside.after text = .outside ∧
      (Scan.outside.brackets text).count '{' = (p.enforce e).result.selectors.length ∧
      ∀ before rest, text = before ++ '{' :: rest → Scan.outside.after before = .outside →
        ∃ body behind, rest = body ++ '}' :: behind ∧ Quiet body ∧ p.EndsWithRules body := by
  intro text
  have braced := Expr.braced_chars_mapSelectors (braced_bodyChars_settle required) plain
  have count := congrArg List.length (Expr.selectors_mapSelectors p.settle plain)
  rw [List.length_map] at count
  rw [← count, ← enforce_result_of_done h, ← String.toList_ofList (l := Expr.chars _)] at braced
  exact ⟨braced.closed, braced.count, braced.groups⟩

/-- A query that tries to smuggle in an unscoped selector by its metric name, by a value and by a
label to sum by. It is forwarded with two opening braces outside literals, and the tenant is
required behind both. -/
theorem enforce_render_of_smuggled_names :
    let job : Matcher := .equalTo "job" "\"\x7d or secret\x7b" (by decide)
    let e : Expr := .binary .or
      (.aggregate .sum (.vector ⟨some "secret\x7b\x7d or up", [job], none⟩) none
        ["a) (secret\x7b\x7d"] false)
      (.matrix (.vector ⟨some "up", [], none⟩) (.ofSeconds 60)) false none
    let p := forTenant false "acme"
    let forwarded := (p.enforce e).result.render
    e.isPlain = true ∧ p.rules ≠ [] ∧ (p.enforce e).outcome = .done ∧
      forwarded = "sum by (\"a) (secret\x7b\x7d\") (\x7b__name__=\"secret\x7b\x7d or up\", " ++
        "job=\"\\\"\x7d or secret\x7b\", tenant=\"acme\"\x7d) or up\x7btenant=\"acme\"\x7d[1m]" ∧
      (Scan.outside.brackets forwarded.toList).count '{' = 2 ∧
      ∀ before rest, forwarded.toList = before ++ '{' :: rest →
        Scan.outside.after before = .outside →
          ∃ body behind, rest = body ++ '}' :: behind ∧ Quiet body ∧ p.EndsWithRules body := by
  intro job e p forwarded
  have plain : e.isPlain = true := rfl
  have required : p.rules ≠ [] := by decide
  have done : (p.enforce e).outcome = .done := by decide
  have effect := enforce_render_is_scoped p e plain required done
  exact ⟨plain, required, done, by decide +kernel, effect.2.1, effect.2.2⟩

end Policy

end SelectorGuard
