import SelectorGuard.Enforcement
import SelectorGuard.Policy.Fingerprint
import SelectorGuard.Proofs.Policy.Assembly
import SelectorGuard.Proofs.Policy.Reconcile

/-!
# Fingerprints as keys of a cache

What is hashed for a fingerprint is a line for the strictness and a line for each required matcher.
Values come from outside and may hold anything, but a canonical form tells where it ends, so no
value can pass for the end of its line or for another matcher, and the bytes that are hashed stand
for one policy only. Nothing is assumed of the hash: where two fingerprints agree, the policies
agree or their bytes are a collision.
-/

namespace SelectorGuard

/-! ### Bytes and hexadecimal digits -/

namespace Blake3

/-- Going through an array of bytes from a place on adds the bytes from there to those taken. -/
theorem toList_loop_eq (bytes : ByteArray) (i : Nat) (taken : List UInt8) :
    ByteArray.toList.loop bytes i taken = taken.reverse ++ bytes.data.toList.drop i := by
  fun_induction ByteArray.toList.loop bytes i taken with
  | case1 i taken inside ih =>
    have there : i < bytes.data.toList.length := by simpa using inside
    have here : bytes.get! i = bytes.data.toList[i] := by
      change bytes.data[i]! = _
      rw [getElem!_pos bytes.data i inside, Array.getElem_toList]
    rw [ih, here, List.reverse_cons, List.append_assoc, List.singleton_append,
      List.getElem_cons_drop]
  | case2 i taken beyond =>
    have past : bytes.data.toList.length ≤ i := by simpa using beyond
    rw [List.drop_eq_nil_of_le past, List.append_nil]

/-- The bytes of a text determine the text. -/
theorem utf8_inj {text other : String} (h : text.toUTF8.toList = other.toUTF8.toList) :
    text = other := by
  rw [ByteArray.toList, ByteArray.toList, toList_loop_eq, toList_loop_eq] at h
  exact String.toByteArray_inj.mp (ByteArray.ext (Array.toList_inj.mp h))

/-- A hexadecimal digit determines the number that it was written for, up to multiples of 16. -/
theorem hexDigit_inj {m n : Nat} (h : Text.hexDigit m = Text.hexDigit n) : m % 16 = n % 16 := by
  have values := congrArg Text.hexValue? h
  rw [Text.hexValue?_hexDigit, Text.hexValue?_hexDigit] at values
  exact Option.some.inj values

/-- The two digits of every byte determine the bytes. -/
theorem hex_inj {bytes others : List UInt8} (h : hex bytes = hex others) : bytes = others := by
  have digits := String.ofList_injective h
  clear h
  induction bytes generalizing others with
  | nil =>
    cases others with
    | nil => rfl
    | cons b rest => cases digits
  | cons a more ih =>
    cases others with
    | nil => cases digits
    | cons b rest =>
      simp only [List.flatMap_cons, List.cons_append, List.nil_append, List.cons.injEq] at digits
      obtain ⟨high, low, same⟩ := digits
      have upper := hexDigit_inj high
      have lower := hexDigit_inj low
      have values : a.toNat = b.toNat := by
        have hb := b.toNat_lt
        have ha := a.toNat_lt
        omega
      rw [UInt8.toNat_inj.mp values, ih same]

end Blake3

namespace Policy

/-! ### What is hashed -/

/-- The bytes that are hashed for the fingerprint. -/
def hashed (p : Policy) : List UInt8 :=
  (String.ofList p.fingerprintText).toUTF8.toList

/-- The line for a required matcher. -/
def ruleLine (m : Matcher) : List Char :=
  m.chars ++ ['\n']

/-- The lines for matchers determine the matchers and their order, whatever their values hold. -/
theorem flatMap_ruleLine_inj {ms ns : List Matcher}
    (h : ms.flatMap ruleLine = ns.flatMap ruleLine) : ms = ns := by
  induction ms generalizing ns with
  | nil =>
    cases ns with
    | nil => rfl
    | cons n ns => simp [ruleLine] at h
  | cons m ms ih =>
    cases ns with
    | nil => simp [ruleLine] at h
    | cons n ns =>
      simp only [List.flatMap_cons, ruleLine, List.append_assoc, List.cons_append,
        List.nil_append] at h
      obtain ⟨rfl, tails⟩ := Matcher.chars_append_inj h
      rw [ih (List.cons.inj tails).2]

/-- What is hashed determines the strictness and the required matchers. -/
theorem fingerprintText_inj {p q : Policy} (h : p.fingerprintText = q.fingerprintText) : p = q := by
  obtain ⟨strict, rules, ascending⟩ := p
  obtain ⟨strict', rules', ascending'⟩ := q
  -- The two words for the strictness differ in their first character.
  have modes : strict = strict' := by
    cases strict <;> cases strict' <;> first | rfl | simp [fingerprintText] at h
  subst modes
  obtain rfl : rules = rules' := flatMap_ruleLine_inj (List.append_cancel_left h)
  rfl

/-- The bytes that are hashed determine the policy. -/
theorem hashed_inj {p q : Policy} : p.hashed = q.hashed ↔ p = q := by
  constructor
  · intro h
    exact fingerprintText_inj (String.ofList_injective (Blake3.utf8_inj h))
  · rintro rfl
    rfl

/-- Policies are equal just if they have the same strictness and matchers with the same parts in the
same order. -/
theorem eq_iff_same_parts {p q : Policy} :
    p = q ↔ p.strict = q.strict ∧ p.rules.map Matcher.identity = q.rules.map Matcher.identity := by
  constructor
  · rintro rfl
    exact ⟨rfl, rfl⟩
  · rintro ⟨modes, parts⟩
    have injective : Function.Injective Matcher.identity := fun _ _ => Matcher.identity_inj.mp
    have rules : p.rules = q.rules := List.map_injective_iff.mpr injective parts
    cases p
    cases q
    simp only [mk.injEq]
    exact ⟨modes, rules⟩

/-- Two fingerprints agree just if the bytes that are hashed agree or collide. -/
theorem fingerprint_eq_iff {p q : Policy} : p.fingerprint = q.fingerprint ↔
    p.hashed = q.hashed ∨
      p.hashed ≠ q.hashed ∧ Blake3.digest p.hashed = Blake3.digest q.hashed := by
  constructor
  · intro h
    have digests : Blake3.digest p.hashed = Blake3.digest q.hashed := Blake3.hex_inj h
    exact (Decidable.em (p.hashed = q.hashed)).imp_right fun differ => ⟨differ, digests⟩
  · rintro (same | ⟨-, collide⟩)
    · exact congrArg (fun bytes => Blake3.hex (Blake3.digest bytes)) same
    · exact congrArg Blake3.hex collide

/-! ### What a list of matchers amounts to -/

/-- The last matcher of a list on a label. -/
def lastOn (ms : List Matcher) (label : String) : Option Matcher :=
  ms.reverse.find? fun m => m.name == label

/-- A policy from a list requires the last matcher of the list on each label. -/
theorem get?_ofList (strict : Bool) (ms : List Matcher) (label : String) :
    (ofList strict ms).get? label = lastOn ms label := by
  induction ms using List.reverseRecOn with
  | nil => rfl
  | append_singleton ms m ih =>
    rw [ofList_concat, get?_require, ih, lastOn, lastOn, List.reverse_concat, List.find?_cons]
    by_cases own : m.name = label
    · rw [if_pos own, beq_iff_eq.mpr own]
    · rw [if_neg own, beq_eq_false_iff_ne.mpr own]

/-- A policy is determined by its strictness and by what it requires on each label. -/
theorem eq_of_get?_eq {p q : Policy} (modes : p.strict = q.strict)
    (required : ∀ label, p.get? label = q.get? label) : p = q := by
  have members (r : Matcher) : r ∈ p.rules ↔ r ∈ q.rules := by
    have own (o : Policy) : r ∈ o.rules ↔ o.get? r.name = some r := by
      rw [get?_eq_some_iff, and_iff_left rfl]
    rw [own, own, required]
  have perm : p.rules.Perm q.rules :=
    (List.perm_ext_iff_of_nodup p.nodup_labels.of_map q.nodup_labels.of_map).mpr members
  have rules : p.rules = q.rules :=
    perm.eq_of_pairwise (fun a b _ _ hab hba => absurd hba (String.lt_asymm hab))
      p.ascending q.ascending
  cases p
  cases q
  simp only [mk.injEq]
  exact ⟨modes, rules⟩

/-- Two lists with the same strictness make the same policy just if they have the same last matcher
on every label. -/
theorem ofList_eq_iff {strict strict' : Bool} {ms ns : List Matcher} :
    ofList strict ms = ofList strict' ns ↔
      strict = strict' ∧ ∀ label, lastOn ms label = lastOn ns label := by
  constructor
  · intro same
    have modes := congrArg Policy.strict same
    rw [strict_ofList, strict_ofList] at modes
    refine ⟨modes, fun label => ?_⟩
    rw [← get?_ofList strict, same, get?_ofList]
  · rintro ⟨rfl, last⟩
    refine eq_of_get?_eq ?_ fun label => ?_
    · rw [strict_ofList, strict_ofList]
    · rw [get?_ofList, get?_ofList, last]

/-! ### The key -/

/-- The bytes that are hashed for two policies are the same just if the policies have the same
strictness and require matchers with the same label, comparison and operand in the same order. Then
enforcing one policy or the other has the same outcome and leaves the same behind, whatever the
root. Two fingerprints are the same just if the bytes are, a collision of the hash apart. Policies
that are made from lists have the same bytes just if the strictness and the last matcher on every
label are the same, so the order of the lists does not matter beyond this. -/
theorem hashed_eq_iff_same_parts (p q : Policy) :
    (p.hashed = q.hashed ↔
      p.strict = q.strict ∧ p.rules.map Matcher.identity = q.rules.map Matcher.identity) ∧
    (p.hashed = q.hashed → ∀ root : Root,
      (p.enforceRoot root).outcome = (q.enforceRoot root).outcome ∧
        (p.enforceRoot root).result = (q.enforceRoot root).result) ∧
    (p.fingerprint = q.fingerprint ↔ p.hashed = q.hashed ∨
      p.hashed ≠ q.hashed ∧ Blake3.digest p.hashed = Blake3.digest q.hashed) ∧
    ∀ (strict strict' : Bool) (ms ns : List Matcher),
      ((ofList strict ms).hashed = (ofList strict' ns).hashed ↔
        strict = strict' ∧ ∀ label, lastOn ms label = lastOn ns label) ∧
      (strict = strict' → (∀ label, lastOn ms label = lastOn ns label) →
        (ofList strict ms).fingerprint = (ofList strict' ns).fingerprint) := by
  refine ⟨hashed_inj.trans eq_iff_same_parts, fun same root => ?_, fingerprint_eq_iff,
    fun strict strict' ms ns => ⟨hashed_inj.trans ofList_eq_iff, fun modes last => ?_⟩⟩
  · rw [hashed_inj.mp same]
    exact ⟨rfl, rfl⟩
  · rw [ofList_eq_iff.mpr ⟨modes, last⟩]

/-- A list in which a later matcher stands for an earlier one has the fingerprint of the list
without the earlier one in the other order. A value that spells a second line of its own does not
pass for the policy that has this line. -/
theorem hashed_eq_iff_same_parts_of_spelled_line :
    let old : Matcher := .equalTo "tenant" "a" (by decide)
    let own : Matcher := .equalTo "tenant" "acme" (by decide)
    let prod : Matcher := .equalTo "stage" "prod" (by decide)
    let spelled : Matcher := .equalTo "stage" "prod\"\ntenant=\"acme" (by decide)
    (ofList true [old, prod, own]).fingerprint = (ofList true [own, prod]).fingerprint ∧
      (ofList true [spelled]).hashed ≠ (ofList true [prod, own]).hashed := by
  intro old own prod spelled
  have lists := (hashed_eq_iff_same_parts (ofList true [spelled]) (ofList true [prod, own])).2.2.2
  have last (label : String) : lastOn [old, prod, own] label = lastOn [own, prod] label := by
    by_cases tenant : "tenant" = label
    · subst tenant
      decide
    · have absent (m : Matcher) (h : m.name = "tenant") : (m.name == label) = false :=
        beq_eq_false_iff_ne.mpr (h ▸ tenant)
      simp only [lastOn, List.reverse_cons, List.reverse_nil, List.nil_append, List.cons_append,
        List.find?_cons, absent old rfl, absent own rfl]
  refine ⟨(lists true true _ _).2 rfl last, fun same => ?_⟩
  have lengths := congrArg List.length ((hashed_eq_iff_same_parts _ _).1.mp same).2
  revert lengths
  decide

end Policy

end SelectorGuard
