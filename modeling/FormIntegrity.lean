import FormIntegrity.Text.Decimal
import FormIntegrity.Text.Hex
import FormIntegrity.Text.Base64Url
import FormIntegrity.Text.Utf8
import FormIntegrity.Unicode.Table
import FormIntegrity.Unicode.Category
import FormIntegrity.Unicode.Script
import FormIntegrity.Unicode.Property
import FormIntegrity.Unicode.CaseFold
import FormIntegrity.Unicode.Printable
import FormIntegrity.Unicode.Age
import FormIntegrity.Unicode.Segment
import FormIntegrity.Unicode.Naming
import FormIntegrity.Pattern.CharClass
import FormIntegrity.Pattern.Regex
import FormIntegrity.Pattern.Tree
import FormIntegrity.Pattern.Octets
import FormIntegrity.Pattern.Size
import FormIntegrity.Pattern.Property
import FormIntegrity.Pattern.Parser
import FormIntegrity.Pattern.Automaton
import FormIntegrity.Pattern.Basic
import FormIntegrity.Json.Value
import FormIntegrity.Json.Reader
import FormIntegrity.Json.Decode
import FormIntegrity.Scope
import FormIntegrity.Method
import FormIntegrity.Query
import FormIntegrity.Token
import FormIntegrity.Placeholder
import FormIntegrity.PageIds
import FormIntegrity.IdMap
import FormIntegrity.DataType
import FormIntegrity.Rule
import FormIntegrity.Config.Error
import FormIntegrity.Config.Settings
import FormIntegrity.Config.Basic
import FormIntegrity.Cipher.Bytes
import FormIntegrity.Cipher.ChaCha
import FormIntegrity.Cipher.Poly1305
import FormIntegrity.Cipher.Basic
import FormIntegrity.Entropy
import FormIntegrity.NameMap
import FormIntegrity.Text.Quoted
import FormIntegrity.State
import FormIntegrity.PageCache
import FormIntegrity.Sealed
import FormIntegrity.Session
import FormIntegrity.Guard
import FormIntegrity.Composer
import FormIntegrity.Composer.InPlace
import FormIntegrity.Request
import FormIntegrity.Violation
import FormIntegrity.Validation
import FormIntegrity.Proofs.Placeholder
import FormIntegrity.Proofs.PageCache
import FormIntegrity.Proofs.Deployment
import FormIntegrity.Proofs.Calls
import FormIntegrity.Proofs.Resolution
import FormIntegrity.Proofs.MemoryTokens
import FormIntegrity.Proofs.TokenText
import FormIntegrity.Proofs.FreshIds
import FormIntegrity.Proofs.CacheHistory
import FormIntegrity.Proofs.Lifetime
import FormIntegrity.Proofs.IntegrityCheck
import FormIntegrity.Proofs.IssuedTokens
import FormIntegrity.Proofs.InPlaceCalls
import FormIntegrity.Proofs.Lifecycle
import FormIntegrity.Proofs.CipherInverse
import FormIntegrity.Proofs.TextCodecs
import FormIntegrity.Proofs.JsonRoundTrip
import FormIntegrity.Proofs.SealedRoundTrip
import FormIntegrity.Proofs.Submission
import FormIntegrity.Proofs.TokenCanonical
import FormIntegrity.Proofs.RuleBuckets
import FormIntegrity.Proofs.ComposedQuery
import FormIntegrity.Proofs.TokenBinding
import FormIntegrity.Proofs.ComposedParameters
import FormIntegrity.Proofs.LinkValidation
import FormIntegrity.Proofs.ConfigCompilation
import FormIntegrity.Proofs.FieldErrors
import FormIntegrity.Proofs.WholeText
import FormIntegrity.Proofs.ClassRanges
import FormIntegrity.Proofs.RegexLanguage
import FormIntegrity.Proofs.ThompsonFragments
import FormIntegrity.Proofs.PikeSearch
import FormIntegrity.Proofs.ParsedClasses
import FormIntegrity.Proofs.ParsedTrees
import FormIntegrity.Proofs.WholeMatch
