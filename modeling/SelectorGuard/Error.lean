import SelectorGuard.Policy.Verdict
import SelectorGuard.Policy.Config

/-!
# Errors of the library as a whole

Whatever goes wrong belongs to one of three groups: a policy cannot be made, a query contradicts a
strict policy, or a document cannot be read. A caller tells them apart to decide whether access is
denied or something is badly set up.
-/

namespace SelectorGuard

/-- Any error. -/
inductive GuardError where
  /-- A policy cannot be made. -/
  | policy (error : PolicyError)
  /-- A query contradicts a strict policy. -/
  | conflict (conflict : Conflict)
  /-- An expression cannot be read. -/
  | unreadable (fault : DecodeFault)
deriving DecidableEq, Repr

namespace GuardError

/-- The error of a matcher that cannot be made. -/
def ofMatcher (e : MatcherError) : GuardError :=
  .policy (.matcher e)

/-- The message of an error. -/
def message : GuardError → String
  | policy e => "Policy error: " ++ e.message
  | conflict c => "Enforcement error: " ++ c.message
  | unreadable fault => "Serialization error: deserialize expr: " ++ fault.message

/-- The query is at fault: access is to be denied. -/
def isConflict : GuardError → Bool
  | conflict _ => true
  | _ => false

/-- The policy is at fault. -/
def isPolicy : GuardError → Bool
  | policy _ => true
  | _ => false

end GuardError

end SelectorGuard
