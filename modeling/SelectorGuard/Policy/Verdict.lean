import SelectorGuard.Policy.Basic

/-!
# Reconciling matchers with a policy

The matchers of a selector are gone through in order. One whose label the policy says nothing about
is kept. On a label of the policy, a strict policy refuses any matcher that is not its own, an
equality requirement drops it, and any other requirement keeps it. The matchers of the policy are
then added in their order.
-/

namespace SelectorGuard

/-- A matcher that contradicts a strict policy. -/
structure Conflict where
  /-- The canonical form of the matcher in the query. -/
  existing : String
  /-- The canonical form of the matcher that the policy requires. -/
  required : String
deriving DecidableEq, Repr

/-- The message of a conflict. -/
def Conflict.message (c : Conflict) : String :=
  "label matcher value (" ++ c.existing ++ ") conflicts with injected value (" ++ c.required ++ ")"

namespace Policy

/-- What becomes of a matcher of a selector. -/
inductive Verdict where
  /-- It stays. -/
  | keep
  /-- A requirement takes its place. -/
  | drop
  /-- It contradicts the policy. -/
  | refuse (conflict : Conflict)
deriving DecidableEq, Repr

/-- Judge a matcher of a selector. -/
def judge (p : Policy) (m : Matcher) : Verdict :=
  match p.get? m.name with
  | none => .keep
  | some required =>
    if p.strict && m.canonical != required.canonical then
      .refuse ⟨m.canonical, required.canonical⟩
    else if required.isExclusive then .drop
    else .keep

/-- The matchers that stay, or the first conflict. -/
def retain (p : Policy) : List Matcher → Except Conflict (List Matcher)
  | [] => .ok []
  | m :: rest =>
    match p.judge m with
    | .keep => (retain p rest).map (m :: ·)
    | .drop => retain p rest
    | .refuse c => .error c

/-- The matchers of a selector after enforcement, or the first conflict. -/
def reconcile (p : Policy) (ms : List Matcher) : Except Conflict (List Matcher) :=
  (p.retain ms).map (· ++ p.rules)

end Policy

end SelectorGuard
