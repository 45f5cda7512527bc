import SelectorGuard.Policy.Basic

/-!
# Drafts of policies

A label may be restricted to literal values or to a pattern. One value makes an equality matcher;
several values make a pattern that lists them, each spelled so that it matches only itself. A
pattern that matches the empty value is refused, because it would also select the series that lack
the label. A draft collects such matchers, and matchers made elsewhere, before they become a
policy.
-/

namespace SelectorGuard

/-- Why a configuration is refused. -/
inductive ConfigFault where
  /-- The text cannot be read as a configuration. -/
  | unreadable
  /-- No matcher is configured, so the policy would require nothing. -/
  | noMatchers
deriving DecidableEq, Repr

/-- Why a policy cannot be made. -/
inductive PolicyError where
  /-- The pattern for a label is not well formed. -/
  | illFormedPattern (label : String)
  /-- The pattern for a label matches the empty value. -/
  | matchesEmpty (label : String)
  /-- No value is given for a label. -/
  | noValues (label : String)
  /-- A matcher cannot be made. -/
  | matcher (error : MatcherError)
  /-- A configuration is refused. -/
  | config (fault : ConfigFault)
deriving DecidableEq, Repr

/-- What is wrong with a configuration. Why a text is unreadable is not told. -/
def ConfigFault.message : ConfigFault → String
  | unreadable => "<json>"
  | noMatchers => "at least one matcher is required"

/-- The message of an error. What is wrong with a pattern is not told. -/
def PolicyError.message : PolicyError → String
  | illFormedPattern label => "Invalid pattern for label '" ++ label ++ "': invalid regex: <regex>"
  | matchesEmpty label =>
    "Invalid pattern for label '" ++ label ++ "': regex should not match empty string"
  | noValues label => "At least one value is required for label '" ++ label ++ "'"
  | matcher e => "Invalid matcher: " ++ e.message
  | config fault => "Invalid policy configuration: " ++ fault.message

namespace Matcher

/-- Make a matcher, as part of making a policy. -/
def makeRule (kind : MatchKind) (name value : String) : Except PolicyError Matcher :=
  (make kind name value).mapError .matcher

/-- Restrict a label to a pattern that does not match the empty value. The pattern is judged before
the label name. -/
def matching (label pattern : String) : Except PolicyError Matcher :=
  if !Pattern.isAnchorable pattern then .error (.illFormedPattern label)
  else if Pattern.accepts pattern "" then .error (.matchesEmpty label)
  else makeRule .regexMatch label pattern

/-- Restrict a label to literal values. -/
def oneOf (label : String) (values : List String) : Except PolicyError Matcher :=
  match values with
  | [] => .error (.noValues label)
  | [value] => makeRule .equal label value
  | _ => matching label (Pattern.alternatives values)

end Matcher

/-- A policy in the making. -/
structure PolicyDraft where
  /-- The strictness so far. -/
  strict : Bool := false
  /-- The matchers so far, in the order in which they were added. -/
  matchers : List Matcher := []
deriving DecidableEq

namespace PolicyDraft

/-- Set the strictness. -/
def setStrict (b : PolicyDraft) (strict : Bool) : PolicyDraft :=
  { b with strict }

/-- Add a matcher. -/
def add (b : PolicyDraft) (m : Matcher) : PolicyDraft :=
  { b with matchers := b.matchers ++ [m] }

/-- Add a restriction to literal values. -/
def addOneOf (b : PolicyDraft) (label : String) (values : List String) :
    Except PolicyError PolicyDraft :=
  (Matcher.oneOf label values).map b.add

/-- Add a restriction to a pattern. -/
def addMatching (b : PolicyDraft) (label pattern : String) : Except PolicyError PolicyDraft :=
  (Matcher.matching label pattern).map b.add

/-- The policy of the matchers so far. -/
def build (b : PolicyDraft) : Policy :=
  Policy.ofList b.strict b.matchers

end PolicyDraft

end SelectorGuard
