import FormIntegrity.Config.Settings

/-!
# Compiled configuration

Settings become a configuration once every pattern is compiled, so that a bad pattern is refused at
start-up and never while a request is served. The checks run in a fixed order and the first failure
is the error: the page count, the state parameter name, the rules in order, the default rules in
order (a URL pattern on one is refused before it is compiled), the built-in rules, the exemptions
(URL pattern, then parameter patterns), the start pages and the start parameters.
-/

namespace FormIntegrity

/-- A compiled configuration. -/
structure Config where
  maxPagesPerSession : Nat
  confidentiality : Bool
  strategy : Strategy
  stateParameterName : String
  randomStateParameterName : Bool
  startPages : List Pattern
  startParameters : List Pattern
  exemptions : List (Pattern × List Pattern)
  rejectUndeclaredParameters : Bool
  editableValidation : Bool
  rules : RuleSet
  deriving Inhabited

namespace Config

/-- The configuration of settings with their patterns left out. -/
def withoutPatterns (s : Settings) : Config where
  maxPagesPerSession := s.maxPagesPerSession
  confidentiality := s.confidentiality
  strategy := s.strategy
  stateParameterName := s.stateParameterName
  randomStateParameterName := s.randomStateParameterName
  startPages := []
  startParameters := []
  exemptions := []
  rejectUndeclaredParameters := s.rejectUndeclaredParameters
  editableValidation := s.editableValidation
  rules := {}

/-- The default configuration: the default settings, with no patterns at all. -/
def default : Config := withoutPatterns {}

/-- Whether a state parameter name is usable in a query: non-empty and free of `&`, `=`, `?`
and `#`. -/
def validStateName (name : String) : Bool :=
  !name.isEmpty && name.toList.all fun c => c ≠ '&' && c ≠ '=' && c ≠ '?' && c ≠ '#'

/-- Compiles sources in order, as a setup error. -/
def compileSources (sources : List String) : Except SetupError (List Pattern) :=
  match Pattern.compileAll sources with
  | .ok ps => .ok ps
  | .error e => .error (.pattern e)

/-- Compiles settings into a configuration. -/
def compile (s : Settings) : Except SetupError Config := do
  if s.maxPagesPerSession = 0 then throw (.config .noPages)
  if !validStateName s.stateParameterName then throw (.config (.badStateName s.stateParameterName))
  let rules ← s.rules.mapM Rule.compile
  let defaults ← s.defaultRules.mapM fun spec =>
    if spec.url.isSome then throw (.config (.defaultRuleWithUrl spec.name)) else Rule.compile spec
  let builtins ← if s.builtinDefaultRules then RuleSpec.builtins.mapM Rule.compile else pure []
  let exemptions ← s.exemptions.mapM fun ex => do
    let url ← (Pattern.compile ex.url).mapError SetupError.pattern
    let params ← compileSources ex.parameters
    pure (url, params)
  let startPages ← compileSources s.startPages
  let startParameters ← compileSources s.startParameters
  pure { withoutPatterns s with
    startPages, startParameters, exemptions, rules := RuleSet.ofRules (rules ++ defaults ++ builtins) }

/-- Whether a path is a start page, which may be requested without a token. -/
def isStartPage (c : Config) (path : String) : Bool :=
  Pattern.anyMatches c.startPages path

/-- Whether a parameter needs no validation at a URL: it matches a start parameter pattern, or an
exemption whose URL pattern matches holds a pattern matching it. -/
def isExempt (c : Config) (url parameter : String) : Bool :=
  Pattern.anyMatches c.startParameters parameter ||
    c.exemptions.any fun (u, ps) => u.test url && Pattern.anyMatches ps parameter

end Config

end FormIntegrity
