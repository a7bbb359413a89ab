import FormIntegrity.Config.Error
import FormIntegrity.DataType

/-!
# Whitelist rules

A rule says which values an editable parameter may take: a value must match the accepted pattern,
if there is one, and must not match the rejected pattern, if there is one. A rule may be limited to
URLs and to parameter names by patterns, and to kinds of form controls.

Rules are grouped into buckets by the source text of their URL pattern, in order of first
occurrence; rules without a URL pattern form the default bucket. For a URL, a parameter and a kind
of control, the rules chosen are those of the first bucket whose URL pattern matches and which holds
a rule that applies; when there is none, those of the default bucket that apply.
-/

namespace FormIntegrity

/-- A rule as written in settings. -/
structure RuleSpec where
  name : String
  url : Option String := none
  parameter : Option String := none
  dataTypes : List DataType := []
  accepted : Option String := none
  rejected : Option String := none
  deriving DecidableEq, Repr, Inhabited

namespace RuleSpec

/-- A rule that accepts the values matching `pattern`. -/
def accept (name pattern : String) : RuleSpec := { name, accepted := some pattern }

/-- A rule that rejects the values matching `pattern`. -/
def reject (name pattern : String) : RuleSpec := { name, rejected := some pattern }

/-- The rules a configuration may add by default: no script tags, no script URIs and no event
handler attributes, each matched without regard to case and across lines. -/
def builtins : List RuleSpec :=
  [reject "script-tag" "(?is).*<\\s*/?\\s*script.*",
   reject "javascript-uri" "(?is).*(javascript|vbscript)\\s*:.*",
   reject "event-handler"
     "(?is).*\\bon(load|error|click|dblclick|mouseover|mouseout|focus|blur|submit|change|keyup|keydown)\\s*=.*"]

/-- The rule limited to URLs matching `pattern`. -/
def withUrl (spec : RuleSpec) (pattern : String) : RuleSpec := { spec with url := some pattern }

/-- The rule limited to parameter names matching `pattern`. -/
def withParameter (spec : RuleSpec) (pattern : String) : RuleSpec :=
  { spec with parameter := some pattern }

/-- The rule limited to the given kinds of controls. -/
def withDataTypes (spec : RuleSpec) (kinds : List DataType) : RuleSpec :=
  { spec with dataTypes := kinds }

end RuleSpec

/-- A compiled rule. -/
structure Rule where
  name : String
  url : Option Pattern
  parameter : Option Pattern
  dataTypes : List DataType
  accepted : Option Pattern
  rejected : Option Pattern
  deriving Inhabited

namespace Rule

/-- Compiles an optional pattern. -/
def compileOpt : Option String → Except SetupError (Option Pattern)
  | none => .ok none
  | some src =>
    match Pattern.compile src with
    | .ok p => .ok (some p)
    | .error e => .error (.pattern e)

/-- Compiles a rule: a rule without accepted and rejected patterns is refused first, then the URL,
parameter, accepted and rejected patterns are compiled in that order. -/
def compile (spec : RuleSpec) : Except SetupError Rule := do
  if spec.accepted.isNone && spec.rejected.isNone then
    throw (.config (.ruleWithoutPattern spec.name))
  let url ← compileOpt spec.url
  let parameter ← compileOpt spec.parameter
  let accepted ← compileOpt spec.accepted
  let rejected ← compileOpt spec.rejected
  pure { name := spec.name, url, parameter, dataTypes := spec.dataTypes, accepted, rejected }

/-- Whether the rule applies to a parameter of a kind of control: its parameter pattern, if any,
matches the name, and it is limited to no kinds or the kind is given and among them. -/
def appliesTo (r : Rule) (parameter : String) (dataType : Option DataType) : Bool :=
  (r.parameter.all fun p => p.test parameter) &&
    (r.dataTypes.isEmpty || dataType.any fun dt => r.dataTypes.contains dt)

/-- Whether the rule accepts a value. -/
def accepts (r : Rule) (value : String) : Bool :=
  (r.accepted.all fun p => p.test value) && (r.rejected.all fun p => !p.test value)

end Rule

/-- Rules grouped into URL buckets and a default bucket. -/
structure RuleSet where
  /-- Buckets by URL pattern, in order of first occurrence, each with its rules in order. -/
  buckets : List (Pattern × List Rule) := []
  /-- Rules without a URL pattern, in order. -/
  fallback : List Rule := []
  deriving Inhabited

namespace RuleSet

/-- Adds a rule to the bucket of its URL pattern's source, or to the default bucket. -/
def add (s : RuleSet) (r : Rule) : RuleSet :=
  match r.url with
  | none => { s with fallback := s.fallback ++ [r] }
  | some u =>
    if s.buckets.any (·.1.source == u.source) then
      { s with buckets := s.buckets.map fun (p, rs) => if p.source == u.source then (p, rs ++ [r]) else (p, rs) }
    else { s with buckets := s.buckets ++ [(u, [r])] }

/-- The rule set of a list of rules. -/
def ofRules (rules : List Rule) : RuleSet :=
  rules.foldl add {}

/-- The rules chosen for a parameter of a kind of control at a URL. -/
def select (s : RuleSet) (url parameter : String) (dataType : Option DataType) : List Rule :=
  let applicable (rs : List Rule) := rs.filter (·.appliesTo parameter dataType)
  let scopedHit := s.buckets.findSome? fun (p, rs) =>
    if p.test url then
      match applicable rs with
      | [] => none
      | hits => some hits
    else none
  scopedHit.getD (applicable s.fallback)

/-- The number of rules. -/
def size (s : RuleSet) : Nat :=
  s.fallback.length + (s.buckets.map (·.2.length)).foldl (· + ·) 0

end RuleSet

end FormIntegrity
