import SelectorGuard.Proofs.Policy.Reconcile

/-!
# Merging with one policy several times

A policy does not contradict its own matchers, so a list that has been merged with it can be merged
with it again. The equality requirements then take the place of themselves. The others are kept from
the time before and are added once more, so the list grows by them each time, but no matcher joins it
that has not been there after the first time.
-/

namespace SelectorGuard.Policy

/-! ### What a policy says of its own matchers -/

section

variable {p : Policy}

/-- A matcher contradicts a policy just if the policy requires another one on its label. -/
theorem contradicts_iff {m : Matcher} :
    p.contradicts m = true ↔ ∃ r ∈ p.rules, r.name = m.name ∧ r ≠ m := by
  simp only [contradicts, Option.any_eq_true, get?_eq_some_iff, bne_iff_ne, ne_eq,
    Matcher.identity_inj, and_assoc]

/-- A matcher agrees with a policy just if the policy requires nothing else on its label. -/
theorem contradicts_eq_false_iff {m : Matcher} :
    p.contradicts m = false ↔ ∀ r ∈ p.rules, r.name = m.name → r = m := by
  rw [← Bool.not_eq_true, contradicts_iff]
  push Not
  rfl

/-- The policy does not contradict what it requires. -/
theorem contradicts_eq_false_of_mem_rules {r : Matcher} (hr : r ∈ p.rules) :
    p.contradicts r = false :=
  contradicts_eq_false_iff.mpr fun _ hq names =>
    List.inj_on_of_nodup_map p.nodup_labels hq hr names

/-- A label with a requirement is governed just if the requirement is an equality. -/
theorem governs_of_get? {label : String} {r : Matcher} (required : p.get? label = some r) :
    p.governs label = r.isExclusive := by
  rw [governs, required, Option.any_some]

/-- The label of a required matcher is governed just if the matcher is an equality. -/
theorem governs_of_mem_rules {r : Matcher} (hr : r ∈ p.rules) :
    p.governs r.name = r.isExclusive :=
  governs_of_get? (get?_eq_some_iff.mpr ⟨hr, rfl⟩)

/-- Nothing is refused in a merged list if nothing was refused in the list itself. -/
theorem refuses_eq_false_of_mem_merged {ms : List Matcher} (clear : ∀ m ∈ ms, p.refuses m = false)
    {m : Matcher} (hm : m ∈ p.merged ms) : p.refuses m = false := by
  rcases List.mem_append.mp hm with own | required
  · exact clear m (List.mem_filter.mp own).1
  · rw [refuses, contradicts_eq_false_of_mem_rules required, Bool.and_false]

end

/-! ### Merging again -/

variable (p : Policy)

/-- The matchers of a list that stay when it is merged. -/
def kept (ms : List Matcher) : List Matcher :=
  ms.filter fun m => !p.governs m.name

/-- Merging keeps some matchers of the list and adds the required ones. -/
theorem merged_eq (ms : List Matcher) : p.merged ms = p.kept ms ++ p.rules :=
  rfl

/-- Of two lists one after the other each keeps its own. -/
theorem kept_append (ms more : List Matcher) : p.kept (ms ++ more) = p.kept ms ++ p.kept more :=
  List.filter_append ms more

/-- What stays once stays again. -/
theorem kept_kept (ms : List Matcher) : p.kept (p.kept ms) = p.kept ms := by
  rw [kept, kept, List.filter_filter]
  simp only [Bool.and_self]

/-- The required matchers that are added to what a selector says on their labels, which are all but
the equalities. -/
def layered : List Matcher :=
  p.rules.filter fun r => !r.isExclusive

/-- Of its own matchers a policy keeps those that are no equalities. -/
theorem kept_rules : p.kept p.rules = p.layered :=
  List.filter_congr fun r hr => by rw [governs_of_mem_rules hr]

/-- What a selector carries after it has been merged once and then `n` times again. -/
def rounds (n : Nat) (ms : List Matcher) : List Matcher :=
  p.kept ms ++ (List.replicate n p.layered).flatten ++ p.rules

/-- Merging again keeps all that has been added by earlier rounds. -/
theorem kept_copies (n : Nat) :
    p.kept (List.replicate n p.layered).flatten = (List.replicate n p.layered).flatten := by
  induction n with
  | zero => rfl
  | succ n ih =>
    have layer : p.kept p.layered = p.layered := by rw [← kept_rules, kept_kept]
    rw [List.replicate_succ, List.flatten_cons, kept_append, layer, ih]

/-- Merging once is a round without repetition. -/
theorem rounds_zero (ms : List Matcher) : p.rounds 0 ms = p.merged ms := by
  rw [rounds, List.replicate_zero, List.flatten_nil, List.append_nil]
  rfl

/-- Merging again is one more round. -/
theorem merged_rounds (n : Nat) (ms : List Matcher) :
    p.merged (p.rounds n ms) = p.rounds (n + 1) ms := by
  have copies : (List.replicate (n + 1) p.layered).flatten =
      (List.replicate n p.layered).flatten ++ p.layered := by
    rw [List.replicate_succ', List.flatten_append, List.flatten_singleton]
  rw [merged_eq, rounds, rounds, kept_append, kept_append, kept_kept, kept_copies, kept_rules, copies,
    List.append_assoc (p.kept ms)]

/-- However often a list is merged, it has the matchers that it has after the first time. -/
theorem mem_rounds_iff {n : Nat} {ms : List Matcher} {m : Matcher} :
    m ∈ p.rounds n ms ↔ m ∈ p.merged ms := by
  have required : ∀ l ∈ List.replicate n p.layered, m ∈ l → m ∈ p.rules := fun l hl hm =>
    (List.mem_filter.mp (List.eq_of_mem_replicate hl ▸ hm)).1
  simp only [rounds, merged_eq, List.mem_append, List.mem_flatten]
  constructor
  · rintro ((own | ⟨l, hl, hm⟩) | rule)
    · exact Or.inl own
    · exact Or.inr (required l hl hm)
    · exact Or.inr rule
  · rintro (own | rule)
    · exact Or.inl (Or.inl own)
    · exact Or.inr rule

/-- If all requirements are equalities, merging again changes nothing. -/
theorem rounds_eq_merged (equalities : ∀ r ∈ p.rules, r.kind = .equal) (n : Nat)
    (ms : List Matcher) : p.rounds n ms = p.merged ms := by
  have none_layered : p.layered = [] := by
    refine List.filter_eq_nil_iff.mpr fun r hr => ?_
    simp [Matcher.isExclusive, equalities r hr]
  rw [rounds, none_layered, merged_eq, List.flatten_replicate_nil, List.append_nil]

end SelectorGuard.Policy
