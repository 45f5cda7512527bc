import SelectorGuard.Pattern.Reader
import SelectorGuard.Pattern.Search

/-!
# Anchored patterns

Label matchers hold a pattern against a whole value. The text of the pattern is put into a group
between the two anchors of the text, and what that spells is searched for in the value. The group
is made of text, so a pattern that closes it early escapes the anchors.
-/

namespace SelectorGuard.Pattern

/-- The text of a pattern between anchors. -/
def wrap (cs : List Char) : List Char :=
  ['^', '(', '?', ':'] ++ cs ++ [')', '$']

/-- The anchored pattern that a text spells, if it is well formed. -/
def anchored? (source : String) : Option Pattern :=
  read? (wrap source.toList)

/-- A text that spells a well-formed pattern once it is anchored. -/
def isAnchorable (source : String) : Bool :=
  (anchored? source).isSome

/-- Whether a value is accepted by an anchored pattern; an ill-formed one accepts nothing. The size
of a pattern is judged when it is read first and plays no role here. -/
def accepts (source value : String) : Bool :=
  (parse? (wrap source.toList)).any fun p => p.occursIn value.toList

/-- An anchored pattern accepts the values in which it occurs. -/
theorem accepts_of_anchored? {source : String} {p : Pattern} (h : anchored? source = some p)
    (value : String) : accepts source value = p.occursIn value.toList := by
  rw [accepts, parse?_of_read? h]
  rfl

/-- The spelling of a character that matches just this character. -/
def escapeChar (c : Char) : List Char :=
  if metaCharacters.contains c then ['\\', c] else [c]

/-- The spelling of a pattern that matches a literal text. -/
def escape (cs : List Char) : List Char :=
  cs.flatMap escapeChar

/-- The spelling of a pattern that matches any of several literal texts. -/
def alternatives (values : List String) : String :=
  String.ofList (['|'].intercalate (values.map fun v => escape v.toList))

end SelectorGuard.Pattern
