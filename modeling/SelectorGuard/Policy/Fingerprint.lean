import SelectorGuard.Digest.Blake3
import SelectorGuard.Policy.Basic

/-!
# Fingerprints of policies

A fingerprint is a hash of the rules of a policy: a line for the strictness, then a line with the
canonical form of each required matcher in the order of the policy.
-/

namespace SelectorGuard.Policy

/-- The text that is hashed. -/
def fingerprintText (p : Policy) : List Char :=
  (if p.strict then "strict\n" else "lenient\n").toList ++
    p.rules.flatMap fun m => m.chars ++ ['\n']

/-- The hash of the rules, in hexadecimal. -/
def fingerprint (p : Policy) : String :=
  Blake3.hex (Blake3.digest (String.ofList p.fingerprintText).toUTF8.toList)

end SelectorGuard.Policy
