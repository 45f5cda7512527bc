import SelectorGuard.Enforcement
import SelectorGuard.Error
import SelectorGuard.Identifier
import SelectorGuard.Matcher.Document
import SelectorGuard.Policy.Config
import SelectorGuard.Policy.Draft
import SelectorGuard.Policy.Fingerprint
import SelectorGuard.Policy.Verdict
import SelectorGuard.Proofs.Enforcement.Scope
import SelectorGuard.Proofs.Enforcement.Stopping
import SelectorGuard.Query.Decode
import SelectorGuard.Query.Encode
import SelectorGuard.Query.Instant
import SelectorGuard.Query.Render
import SelectorGuard.Query.Statement
import SelectorGuard.Proofs.Query.Frame
import SelectorGuard.Proofs.Query.Shape
import SelectorGuard.Proofs.Query.Structure
import SelectorGuard.Proofs.Query.Legible
import SelectorGuard.Proofs.Query.Braces
import SelectorGuard.Proofs.Enforcement.Forwarding
import SelectorGuard.Proofs.Pattern.Bounds
import SelectorGuard.Proofs.Pattern.Enclosed.Lexeme
import SelectorGuard.Proofs.Pattern.Enclosed.Bracket
import SelectorGuard.Proofs.Pattern.Enclosed.Reader
import SelectorGuard.Proofs.Matcher.Anchoring
import SelectorGuard.Proofs.Policy.Assembly
import SelectorGuard.Proofs.Policy.Merging
import SelectorGuard.Proofs.Query.Counterpart
import SelectorGuard.Proofs.Policy.Combination
import SelectorGuard.Proofs.Enforcement.Narrowing
import SelectorGuard.Proofs.Enforcement.Repetition
import SelectorGuard.Proofs.Enforcement.Composition
import SelectorGuard.Proofs.Matcher.Identity
import SelectorGuard.Proofs.Policy.CacheKey
import SelectorGuard.Proofs.Query.Tokens
import SelectorGuard.Proofs.Query.Grouping
import SelectorGuard.Proofs.Decimal.Numeral
import SelectorGuard.Proofs.Json.Text
import SelectorGuard.Proofs.Json.Spelling
import SelectorGuard.Proofs.Json.Layout
import SelectorGuard.Proofs.Query.Reread
import SelectorGuard.Proofs.Query.RoundTrip
import SelectorGuard.Proofs.Query.Levels
import SelectorGuard.Proofs.Pattern.Literal
import SelectorGuard.Proofs.Policy.AllowList
import SelectorGuard.Proofs.Policy.Configuration
import SelectorGuard.Proofs.Matcher.Stored
import SelectorGuard.Proofs.Query.Origin
import SelectorGuard.Proofs.Enforcement.Origin
import SelectorGuard.Proofs.Enforcement.Session
import SelectorGuard.Proofs.Policy.ByLabel
import SelectorGuard.Proofs.Enforcement.MetricName
import SelectorGuard.Proofs.Policy.Drafting
import SelectorGuard.Proofs.Policy.ConfigDocument
import SelectorGuard.Proofs.Query.Duration
import SelectorGuard.Proofs.Query.MemberOrder
import SelectorGuard.Proofs.Json.Accepted
