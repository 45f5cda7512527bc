import SelectorGuard.Matcher.Document
import SelectorGuard.Proofs.Matcher.Canonical
import SelectorGuard.Proofs.Traversal

/-!
# The identity of matchers that come from outside

A matcher is made from a label name, a comparison and an operand, or is read from a document that
holds these three. Nothing else goes into it and none of them is altered on the way, so its
canonical form tells exactly which ones they were, whatever characters the operand consists of.
-/

namespace SelectorGuard

/-- Something that is required is there. -/
theorem DecodeFault.require_eq_ok_iff {α : Type} {a? : Option α} {a : α} :
    require a? = .ok a ↔ a? = some a := by
  cases a? with
  | none => exact ⟨nofun, nofun⟩
  | some b => exact Iff.of_eq (by rw [require, Except.ok.injEq, Option.some.injEq])

namespace Matcher

/-- A matcher that has come about from three given parts. -/
inductive ComesFrom (kind : MatchKind) (name value : String) : Matcher → Prop
  /-- It has been made from them. -/
  | parts {m : Matcher} : make kind name value = .ok m → ComesFrom kind name value m
  /-- It has been read from a record in a document, which holds them. -/
  | record {allowEmpty : Bool} {j : Json} {m : Matcher} :
      parts? allowEmpty j = some (kind, name, value) → ofJson allowEmpty j = .ok m →
      ComesFrom kind name value m
  /-- It has been read from a text of its own, whose record holds them. -/
  | text {text : String} {m : Matcher} :
      parts? false (.object (Json.streamRecord ["name", "op", "value"] text.toList).entries) =
        some (kind, name, value) → ofText text = .ok m → ComesFrom kind name value m

/-- Reading a record makes a matcher from the parts that it holds. -/
theorem make_of_ofJson {allowEmpty : Bool} {j : Json} {m : Matcher} {kind : MatchKind}
    {name value : String} (holds : parts? allowEmpty j = some (kind, name, value))
    (h : ofJson allowEmpty j = .ok m) : make kind name value = .ok m := by
  rw [ofJson, holds] at h
  obtain ⟨parts, given, made⟩ := bind_eq_ok_iff.mp h
  cases given
  exact mapError_eq_ok_iff.mp made

/-- A text that gives a matcher starts with a record that gives it. -/
theorem ofJson_of_ofText {text : String} {m : Matcher} (h : ofText text = .ok m) :
    ofJson false (.object (Json.streamRecord ["name", "op", "value"] text.toList).entries) =
      .ok m := by
  obtain ⟨left, -, h⟩ := bind_eq_ok_iff.mp h
  obtain ⟨n, read, h⟩ := bind_eq_ok_iff.mp h
  split at h
  · cases h
    exact read
  · cases h

/-- Whichever way a matcher has come about, it has been made from its parts. -/
theorem ComesFrom.make_eq_ok {kind : MatchKind} {name value : String} {m : Matcher}
    (h : ComesFrom kind name value m) : make kind name value = .ok m := by
  cases h with
  | parts made => exact made
  | record holds read => exact make_of_ofJson holds read
  | text holds read => exact make_of_ofJson holds (ofJson_of_ofText read)

/-- Every matcher comes from its own parts. -/
theorem comesFrom_self (m : Matcher) : ComesFrom m.kind m.name m.value m :=
  .parts (make_self m)

/-- Two matchers, made or read, have the same canonical form just if they have the same label, the
same comparison and the same operand, and these are the ones that they come from. That is just when
they are equal. The parts may consist of any characters, quotes, backslashes and control characters
included. -/
theorem canonical_eq_iff_same_parts {m n : Matcher} {kind kind' : MatchKind}
    {name name' value value' : String} (hm : ComesFrom kind name value m)
    (hn : ComesFrom kind' name' value' n) :
    (m.canonical = n.canonical ↔ m.name = n.name ∧ m.kind = n.kind ∧ m.value = n.value) ∧
    (m.canonical = n.canonical ↔ name = name' ∧ kind = kind' ∧ value = value') ∧
    (m.canonical = n.canonical ↔ (m == n) = true) := by
  have fields : m.canonical = n.canonical ↔
      m.name = n.name ∧ m.kind = n.kind ∧ m.value = n.value := by
    rw [canonical_eq_iff, identity, identity, Prod.mk.injEq, Prod.mk.injEq, and_left_comm]
  obtain ⟨rfl, rfl, rfl⟩ := Matcher.make_eq_ok hm.make_eq_ok
  obtain ⟨rfl, rfl, rfl⟩ := Matcher.make_eq_ok hn.make_eq_ok
  refine ⟨fields, fields, ?_⟩
  rw [beq_iff_eq, canonical_eq_iff, identity_inj]

/-- A control character, made and read from an escape, gives one canonical form. A text that spells
this escape gives another one. -/
theorem canonical_eq_iff_same_parts_of_escapes :
    let made : Matcher := .equalTo "path" "\x01" (by decide)
    ComesFrom .equal "path" "\x01" made ∧
      (∃ read, ofText "[\"path\",\"equal\",\"\\u0001\"]" = .ok read ∧
        made.canonical = read.canonical ∧ (made == read) = true) ∧
      ∃ read, ofText "[\"path\",\"equal\",\"\\\\u0001\"]" = .ok read ∧
        made.canonical ≠ read.canonical ∧ read.canonical = "path=\"\\\\u0001\"" := by
  intro made
  let spelled : Matcher := .equalTo "path" "\\u0001" (by decide)
  have origin : ComesFrom .equal "path" "\x01" made := comesFrom_self made
  have first : ofText "[\"path\",\"equal\",\"\\u0001\"]" = .ok made := by decide +kernel
  have second : ofText "[\"path\",\"equal\",\"\\\\u0001\"]" = .ok spelled := by decide +kernel
  have read : ComesFrom .equal "path" "\x01" made := .text (by decide +kernel) first
  have other : ComesFrom .equal "path" "\\u0001" spelled := .text (by decide +kernel) second
  have same := canonical_eq_iff_same_parts origin read
  have differ := canonical_eq_iff_same_parts origin other
  have form : made.canonical = made.canonical := same.2.1.mpr ⟨rfl, rfl, rfl⟩
  refine ⟨origin, ⟨made, first, form, same.2.2.mp form⟩, spelled, second, fun h => ?_, by decide⟩
  exact absurd (differ.2.1.mp h).2.2 (by decide)

end Matcher

end SelectorGuard
