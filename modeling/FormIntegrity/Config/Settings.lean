import FormIntegrity.Rule
import FormIntegrity.Json.Reader
import FormIntegrity.Json.Decode

/-!
# Settings

The settings of a guard, before their patterns are compiled, with their defaults: five pages per
session, confidentiality on, the memory strategy, the state parameter `_STATE_`, no random name,
undeclared parameters rejected, editable values validated, no built-in rules, and no start pages,
start parameters, exemptions or rules.

A settings document is JSON read by the record rules of `Json.Decode`, every field having its
default; any document that cannot be read so is refused as a whole.
-/

namespace FormIntegrity

/-- How tokens refer to states. -/
inductive Strategy where
  /-- Tokens name a page in a cache and a state on it. -/
  | memory
  /-- Tokens carry the state, sealed. -/
  | cipher
  deriving DecidableEq, Repr, Inhabited

/-- The name of a strategy. -/
def Strategy.name : Strategy → String
  | .memory => "memory"
  | .cipher => "cipher"

/-- Parameters that need no validation on URLs matching a pattern. -/
structure Exemption where
  url : String
  parameters : List String
  deriving DecidableEq, Repr, Inhabited

/-- The settings of a guard. -/
structure Settings where
  maxPagesPerSession : Nat := 5
  confidentiality : Bool := true
  strategy : Strategy := .memory
  stateParameterName : String := "_STATE_"
  randomStateParameterName : Bool := false
  startPages : List String := []
  startParameters : List String := []
  exemptions : List Exemption := []
  rejectUndeclaredParameters : Bool := true
  editableValidation : Bool := true
  builtinDefaultRules : Bool := false
  rules : List RuleSpec := []
  defaultRules : List RuleSpec := []
  deriving Repr, Inhabited

namespace Json

/-- A rule as a record `name, url, parameter, data_types, accepted, rejected`; only the name is
required. -/
def Value.asRuleSpec? (v : Value) : Option RuleSpec := do
  let f ← v.fields? ["name", "url", "parameter", "data_types", "accepted", "rejected"]
  let opt (i : Nat) := f.withDefault i none (Value.asOption? Value.asString?)
  pure {
    name := ← f.required 0 Value.asString?
    url := ← opt 1
    parameter := ← opt 2
    dataTypes := ← f.withDefault 3 [] (Value.asList? Value.asDataType?)
    accepted := ← opt 4
    rejected := ← opt 5 }

/-- An exemption as a record `url, parameters`, both required. -/
def Value.asExemption? (v : Value) : Option Exemption := do
  let f ← v.fields? ["url", "parameters"]
  pure { url := ← f.required 0 Value.asString?,
         parameters := ← f.required 1 (Value.asList? Value.asString?) }

/-- Settings as a record whose every field has its default. -/
def Value.asSettings? (v : Value) : Option Settings := do
  let f ← v.fields? ["max_pages_per_session", "confidentiality", "strategy",
    "state_parameter_name", "random_state_parameter_name", "start_pages", "start_parameters",
    "parameters_without_validation", "reject_undeclared_parameters", "editable_validation",
    "builtin_default_rules", "rules", "default_rules"]
  let d : Settings := {}
  let strategy? (v : Value) : Option Strategy :=
    (v.asChoice? ["memory", "cipher"]).bind ([Strategy.memory, .cipher][·]?)
  let strings := Value.asList? Value.asString?
  let rules := Value.asList? Value.asRuleSpec?
  pure {
    maxPagesPerSession := (← f.withDefault 0 d.maxPagesPerSession.toUInt64 Value.asCount?).toNat
    confidentiality := ← f.withDefault 1 d.confidentiality Value.asBool?
    strategy := ← f.withDefault 2 d.strategy strategy?
    stateParameterName := ← f.withDefault 3 d.stateParameterName Value.asString?
    randomStateParameterName := ← f.withDefault 4 d.randomStateParameterName Value.asBool?
    startPages := ← f.withDefault 5 d.startPages strings
    startParameters := ← f.withDefault 6 d.startParameters strings
    exemptions := ← f.withDefault 7 d.exemptions (Value.asList? Value.asExemption?)
    rejectUndeclaredParameters := ← f.withDefault 8 d.rejectUndeclaredParameters Value.asBool?
    editableValidation := ← f.withDefault 9 d.editableValidation Value.asBool?
    builtinDefaultRules := ← f.withDefault 10 d.builtinDefaultRules Value.asBool?
    rules := ← f.withDefault 11 d.rules rules
    defaultRules := ← f.withDefault 12 d.defaultRules rules }

end Json

namespace Settings

/-- Adds a URL pattern that may be requested without a token. -/
def addStartPage (s : Settings) (pattern : String) : Settings :=
  { s with startPages := s.startPages ++ [pattern] }

/-- Adds a parameter name pattern that is never checked. -/
def addStartParameter (s : Settings) (pattern : String) : Settings :=
  { s with startParameters := s.startParameters ++ [pattern] }

/-- Exempts parameters matching `parameters` on URLs matching `url`. -/
def addExemption (s : Settings) (url : String) (parameters : List String) : Settings :=
  { s with exemptions := s.exemptions ++ [{ url, parameters }] }

/-- Appends a rule. -/
def addRule (s : Settings) (spec : RuleSpec) : Settings :=
  { s with rules := s.rules ++ [spec] }

/-- Appends a rule to the default bucket. -/
def addDefaultRule (s : Settings) (spec : RuleSpec) : Settings :=
  { s with defaultRules := s.defaultRules ++ [spec] }

/-- Reads a settings value. -/
def ofValue (v : Json.Value) : Except ConfigError Settings :=
  match v.asSettings? with
  | some s => .ok s
  | none => .error .unreadableSettings

/-- Reads a settings document. -/
def ofText (text : String) : Except ConfigError Settings :=
  match Json.read? text with
  | some v => ofValue v
  | none => .error .unreadableSettings

end Settings

end FormIntegrity
