import SelectorGuard.Proofs.Matcher.Identity

/-!
# Matchers as they are stored

A matcher is stored with its compiled pattern beside the three parts that it is made from. As far as
such a record goes, the label name could be anything, and a pattern could be missing, be there for
nothing, or be another one than the operand spells; a record without a pattern where it takes one
has no answer of its own and accepts nothing. Only making keeps the fields in line: it gives just
the sound records, and these have the answers of the matchers that they stand for.
-/

namespace SelectorGuard

namespace Label

/-- The letters a to z and A to Z. -/
def IsLetter (c : Char) : Prop :=
  'a' ≤ c ∧ c ≤ 'z' ∨ 'A' ≤ c ∧ c ≤ 'Z'

/-- The digits 0 to 9. -/
def IsDigit (c : Char) : Prop :=
  '0' ≤ c ∧ c ≤ '9'

/-- A letter or an underscore, then letters, digits and underscores, as many as there are. -/
def HasForm (name : String) : Prop :=
  ∃ c rest, name.toList = c :: rest ∧ (IsLetter c ∨ c = '_') ∧
    ∀ d ∈ rest, IsLetter d ∨ IsDigit d ∨ d = '_'

/-- The small and the capital letters are the letters. -/
theorem isAlpha_iff {c : Char} : c.isAlpha = true ↔ IsLetter c := by
  have capital : c.isUpper = true ↔ 'A' ≤ c ∧ c ≤ 'Z' := decide_eq_true_iff
  have small : c.isLower = true ↔ 'a' ≤ c ∧ c ≤ 'z' :=
    Bool.and_eq_true_iff.trans (and_congr decide_eq_true_iff decide_eq_true_iff)
  exact (Bool.or_eq_true_iff.trans (or_congr capital small)).trans or_comm

/-- The digits are the characters that count as such. -/
theorem isDigit_iff {c : Char} : c.isDigit = true ↔ IsDigit c :=
  Bool.and_eq_true_iff.trans (and_congr decide_eq_true_iff decide_eq_true_iff)

/-- A label name starts with a letter or an underscore. -/
theorem isNameStart_iff {c : Char} : isNameStart c = true ↔ IsLetter c ∨ c = '_' :=
  Bool.or_eq_true_iff.trans (or_congr isAlpha_iff beq_iff_eq)

/-- A label name goes on with letters, digits and underscores. -/
theorem isNameRest_iff {c : Char} : isNameRest c = true ↔ IsLetter c ∨ IsDigit c ∨ c = '_' := by
  have alphanumeric : c.isAlphanum = true ↔ IsLetter c ∨ IsDigit c :=
    Bool.or_eq_true_iff.trans (or_congr isAlpha_iff isDigit_iff)
  exact (Bool.or_eq_true_iff.trans (or_congr alphanumeric beq_iff_eq)).trans or_assoc

/-- The legal label names are those of the form. -/
theorem isName_iff_hasForm {name : String} : isName name = true ↔ HasForm name := by
  unfold isName HasForm
  cases name.toList with
  | nil => simp
  | cons c rest => simp [isNameStart_iff, isNameRest_iff]

end Label

/-- The kind that says the opposite. -/
def MatchKind.opposite : MatchKind → MatchKind
  | equal => notEqual
  | notEqual => equal
  | regexMatch => regexNoMatch
  | regexNoMatch => regexMatch

/-- Opposite kinds take the same sort of operand. -/
theorem MatchKind.isRegex_opposite (kind : MatchKind) : kind.opposite.isRegex = kind.isRegex := by
  cases kind <;> rfl

/-- A matcher with its compiled pattern, if there is one. -/
structure Stored where
  /-- The label. -/
  name : String
  /-- The comparison. -/
  kind : MatchKind
  /-- The operand. -/
  value : String
  /-- The compiled pattern. -/
  compiled : Option Pattern

namespace Stored

/-- Make a record. The label name is judged before the operand, which is compiled, between anchors,
for the pattern kinds alone. -/
def make (kind : MatchKind) (name value : String) : Except MatcherError Stored :=
  if Text.isAllBlank name.toList then .error .emptyName
  else if !Label.isName name then .error (.illegalName name)
  else if kind.isRegex then
    match Pattern.anchored? value with
    | some p => .ok ⟨name, kind, value, some p⟩
    | none => .error (.illFormedPattern name)
  else .ok ⟨name, kind, value, none⟩

/-- What a record says of a value. It says nothing if it lacks the pattern that it takes. -/
def answer? (s : Stored) (value : String) : Option Bool :=
  match s.kind, s.compiled with
  | .equal, _ => some (s.value == value)
  | .notEqual, _ => some (s.value != value)
  | .regexMatch, some p => some (p.occursIn value.toList)
  | .regexNoMatch, some p => some (!p.occursIn value.toList)
  | _, none => none

/-- Whether a value satisfies a record. One that says nothing of the value falls back to no. -/
def accepts (s : Stored) (value : String) : Bool :=
  (s.answer? value).getD false

/-- The fields of a record are in line with each other. -/
structure Sound (s : Stored) : Prop where
  /-- The label name has the form of a label name. -/
  name_form : Label.HasForm s.name
  /-- There is a compiled pattern for the pattern kinds, and for no other. -/
  compiled_iff : s.compiled.isSome = true ↔ s.kind.isRegex = true
  /-- The compiled pattern is the one that the operand spells between anchors. -/
  compiled_own : ∀ p ∈ s.compiled, Pattern.anchored? s.value = some p

/-- The same with the opposite comparison. -/
def opposite (s : Stored) : Stored :=
  { s with kind := s.kind.opposite }

variable {s : Stored}

/-- A record can be made from parts just if it has these parts and is sound. -/
theorem make_eq_ok_iff {kind : MatchKind} {name value : String} :
    make kind name value = .ok s ↔
      (s.name = name ∧ s.kind = kind ∧ s.value = value) ∧ s.Sound := by
  constructor
  · intro h
    unfold make at h
    split at h
    · cases h
    · split at h
      · cases h
      · next legal =>
        have form : Label.HasForm name := Label.isName_iff_hasForm.mp (by simpa using legal)
        split at h
        · next regex =>
          split at h
          · next p compiles =>
            cases h
            exact ⟨⟨rfl, rfl, rfl⟩, form, by simp [regex], by rintro q ⟨⟩; exact compiles⟩
          · cases h
        · next plain =>
          cases h
          exact ⟨⟨rfl, rfl, rfl⟩, form, by simp [plain], nofun⟩
  · rintro ⟨⟨rfl, rfl, rfl⟩, sound⟩
    have legal : Label.isName s.name = true := Label.isName_iff_hasForm.mpr sound.name_form
    have judged : Text.isAllBlank s.name.toList = false := Matcher.isAllBlank_of_isName legal
    have compiled := sound.compiled_iff
    obtain ⟨name, kind, value, _ | p⟩ := s
    · have plain : kind.isRegex = false := by simpa using compiled
      simp [make, judged, legal, plain]
    · have regex : kind.isRegex = true := by simpa using compiled
      have compiles : Pattern.anchored? value = some p := sound.compiled_own p rfl
      simp [make, judged, legal, regex, compiles]

/-- Making the opposite record succeeds and fails alike. -/
theorem make_opposite (kind : MatchKind) (name value : String) :
    make kind.opposite name value = (make kind name value).map opposite := by
  unfold make
  rw [kind.isRegex_opposite]
  split
  · rfl
  · split
    · rfl
    · split
      · cases Pattern.anchored? value <;> rfl
      · rfl

/-- A sound record says something of every value. -/
theorem Sound.answer?_eq (sound : s.Sound) (value : String) :
    s.answer? value = some (s.accepts value) := by
  have compiled := sound.compiled_iff
  unfold accepts answer?
  cases hk : s.kind <;> cases hc : s.compiled <;> simp_all [MatchKind.isRegex]

/-- The opposite of a record says the opposite, if the record says anything. -/
theorem answer?_opposite (s : Stored) (value : String) :
    s.opposite.answer? value = (s.answer? value).map not := by
  obtain ⟨name, kind, operand, compiled⟩ := s
  cases kind <;> cases compiled <;> simp [opposite, answer?, MatchKind.opposite, bne]

/-- A sound record and its opposite never agree on a value. -/
theorem Sound.accepts_opposite (sound : s.Sound) (value : String) :
    s.opposite.accepts value = !s.accepts value := by
  rw [Stored.accepts, answer?_opposite, sound.answer?_eq]
  rfl

end Stored

namespace Matcher

/-- A matcher as it is stored. -/
def stored (m : Matcher) : Stored :=
  ⟨m.name, m.kind, m.value, m.pattern?⟩

/-- Making a matcher and making its record are the same, and fail in the same way. -/
theorem map_stored_make (kind : MatchKind) (name value : String) :
    (make kind name value).map stored = Stored.make kind name value := by
  unfold make Stored.make
  by_cases blank : Text.isAllBlank name.toList = true
  · simp [blank, Except.map]
  · by_cases legal : Label.isName name = true
    · by_cases regex : kind.isRegex = true
      · cases compiles : Pattern.anchored? value with
        | none => simp [blank, legal, regex, Pattern.isAnchorable, compiles, Except.map]
        | some p =>
          simp [blank, legal, regex, Pattern.isAnchorable, compiles, Except.map, stored, pattern?]
      · simp [blank, legal, regex, Except.map, stored, pattern?]
    · simp [blank, legal, Except.map]

/-- The record of a matcher is made from the parts of the matcher. -/
theorem make_stored (m : Matcher) : Stored.make m.kind m.name m.value = .ok m.stored := by
  rw [← map_stored_make, make_self]
  rfl

/-- A matcher accepts what its record accepts. -/
theorem accepts_stored (m : Matcher) (value : String) :
    m.stored.accepts value = m.accepts value := by
  -- What the operand of a pattern kind spells rules out the cases without a pattern.
  have spells := m.value_spells
  unfold Stored.accepts Stored.answer? accepts stored pattern?
  cases hk : m.kind <;> cases hc : Pattern.anchored? m.value <;>
    simp_all [MatchKind.isRegex, Pattern.isAnchorable, Pattern.accepts_of_anchored?]

/-- Two opposite matchers can both be made, and never agree on a value, or neither can, for the same
reason. -/
theorem make_opposite (kind : MatchKind) (name value : String) :
    (∃ m n, make kind name value = .ok m ∧ make kind.opposite name value = .ok n ∧
      ∀ probe, n.accepts probe = !m.accepts probe) ∨
    ∃ e, make kind name value = .error e ∧ make kind.opposite name value = .error e := by
  have alike : (make kind.opposite name value).map stored =
      ((make kind name value).map stored).map Stored.opposite := by
    rw [map_stored_make, map_stored_make, Stored.make_opposite]
  cases made : make kind name value with
  | error e =>
    cases other : make kind.opposite name value with
    | error e' =>
      rw [made, other] at alike
      cases alike
      exact .inr ⟨e, rfl, rfl⟩
    | ok n =>
      rw [made, other] at alike
      cases alike
  | ok m =>
    cases other : make kind.opposite name value with
    | error e' =>
      rw [made, other] at alike
      cases alike
    | ok n =>
      rw [made, other] at alike
      have records : n.stored = m.stored.opposite := Except.ok.inj alike
      have sound : m.stored.Sound := (Stored.make_eq_ok_iff.mp m.make_stored).2
      refine .inl ⟨m, n, rfl, rfl, fun probe => ?_⟩
      rw [← n.accepts_stored, records, sound.accepts_opposite, m.accepts_stored]

end Matcher

end SelectorGuard
