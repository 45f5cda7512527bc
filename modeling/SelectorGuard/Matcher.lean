import SelectorGuard.Label
import SelectorGuard.Pattern.Anchored

/-!
# Label matchers

A matcher constrains one label of a series: its value equals a text, differs from it, is matched
by a pattern, or is not. A matcher is made only with a legal label name and, for the two pattern
kinds, with a well-formed pattern, and the type carries both facts. The canonical form of a
matcher is its spelling in query text.
-/

namespace SelectorGuard

/-- The comparison that a matcher makes. -/
inductive MatchKind where
  /-- The value equals the operand. -/
  | equal
  /-- The value differs from the operand. -/
  | notEqual
  /-- The whole value is matched by the operand as a pattern. -/
  | regexMatch
  /-- The value is not matched by the operand as a pattern. -/
  | regexNoMatch
deriving DecidableEq, Repr, Inhabited

namespace MatchKind

/-- The operator in query text. -/
def token : MatchKind → String
  | equal => "="
  | notEqual => "!="
  | regexMatch => "=~"
  | regexNoMatch => "!~"

/-- The two kinds whose operand is a pattern. -/
def isRegex : MatchKind → Bool
  | regexMatch | regexNoMatch => true
  | _ => false

/-- The keyword of a kind outside query text. -/
def keyword : MatchKind → String
  | equal => "equal"
  | notEqual => "not_equal"
  | regexMatch => "regex_match"
  | regexNoMatch => "regex_no_match"

/-- All kinds. -/
def all : List MatchKind :=
  [equal, notEqual, regexMatch, regexNoMatch]

end MatchKind

/-- A constraint on the value of one label. -/
structure Matcher where
  /-- The label. -/
  name : String
  /-- The comparison. -/
  kind : MatchKind
  /-- The operand: a text, or a pattern for the pattern kinds. -/
  value : String
  /-- The label name is legal. -/
  name_legal : Label.isName name = true
  /-- The operand of a pattern kind spells a pattern. -/
  value_spells : kind.isRegex = true → Pattern.isAnchorable value = true
deriving DecidableEq

/-- Why a matcher cannot be made. -/
inductive MatcherError where
  /-- The label name is empty or all blank. -/
  | emptyName
  /-- The label name is not legal. -/
  | illegalName (name : String)
  /-- The pattern for a label is not well formed. -/
  | illFormedPattern (label : String)
deriving DecidableEq, Repr

/-- The message of an error. What is wrong with a pattern is not told. -/
def MatcherError.message : MatcherError → String
  | emptyName => "Label name cannot be empty"
  | illegalName name => "Invalid label name '" ++ name ++ "'"
  | illFormedPattern label => "Invalid regex for label '" ++ label ++ "': <regex>"

namespace Matcher

/-- Make a matcher. The label name is judged before the pattern. -/
def make (kind : MatchKind) (name value : String) : Except MatcherError Matcher :=
  if Text.isAllBlank name.toList then .error .emptyName
  else if hn : Label.isName name = true then
    if hv : kind.isRegex = true → Pattern.isAnchorable value = true then
      .ok ⟨name, kind, value, hn, hv⟩
    else .error (.illFormedPattern name)
  else .error (.illegalName name)

/-- The pattern of a matcher, anchored; only the pattern kinds have one. -/
def pattern? (m : Matcher) : Option Pattern :=
  if m.kind.isRegex then Pattern.anchored? m.value else none

/-- Whether a value satisfies the matcher. A label that a series lacks has the empty value. -/
def accepts (m : Matcher) (value : String) : Bool :=
  match m.kind with
  | .equal => m.value == value
  | .notEqual => m.value != value
  | .regexMatch => Pattern.accepts m.value value
  | .regexNoMatch => !Pattern.accepts m.value value

/-- The characters of the canonical form. -/
def chars (m : Matcher) : List Char :=
  m.name.toList ++ m.kind.token.toList ++ Text.Quoted.encode m.value.toList

/-- The canonical form, such as `tenant="acme"`. -/
def canonical (m : Matcher) : String :=
  String.ofList m.chars

/-- The matchers on one label, in order. -/
def onLabel (label : String) (ms : List Matcher) : List Matcher :=
  ms.filter fun m => m.name == label

/-- Making succeeds only with the given parts. -/
theorem make_eq_ok {kind : MatchKind} {name value : String} {m : Matcher}
    (h : make kind name value = .ok m) :
    m.name = name ∧ m.kind = kind ∧ m.value = value := by
  unfold make at h
  split at h
  · cases h
  · split at h
    · split at h
      · cases h
        exact ⟨rfl, rfl, rfl⟩
      · cases h
    · cases h

/-- A legal label name is not all blank. -/
theorem isAllBlank_of_isName {name : String} (h : Label.isName name = true) :
    Text.isAllBlank name.toList = false := by
  unfold Label.isName at h
  split at h
  · cases h
  · next c rest eq =>
    rw [Bool.and_eq_true] at h
    rw [eq, Text.isAllBlank, List.all_cons, Label.isBlank_of_isNameStart h.1, Bool.false_and]

/-- Every matcher is made from its own parts. -/
theorem make_self (m : Matcher) : make m.kind m.name m.value = .ok m := by
  rw [make, isAllBlank_of_isName m.name_legal, if_neg Bool.false_ne_true, dif_pos m.name_legal,
    dif_pos m.value_spells]

end Matcher

end SelectorGuard
