import FormIntegrity.Guard
import FormIntegrity.Sealed
import FormIntegrity.Request
import FormIntegrity.Violation

/-!
# Validating requests

A request is validated against the state its token names. The token is the one value of the
session's state parameter; several values are a malformed token, and none is allowed only on a start
page. The token must name a state that is still held (memory tokens: the page in the cache of the
token's scope, with the page's nonce) or must open (cipher tokens: under the application key for
application tokens, the session key otherwise), and the state's scope must be the token's.

The integrity check then runs in a fixed order: the action must be the path; each submitted
parameter, in name order, is passed through when exempt, refused when undeclared (or passed through
when undeclared parameters are allowed), passed through when editable, refused when it has more
values than recorded, and otherwise has each value resolved to a recorded one; last, every required
parameter, in name order, must have been submitted or be exempt. The restored values replace the
submitted ones.

Editable values are then checked against whitelist rules: every parameter that is not exempt and is
editable, or not declared at all, has each value checked by the rules chosen for it, and the first
rule refusing a value is reported. A request that passes with field errors is shown again to the
user instead of being served.
-/

namespace FormIntegrity

namespace Validation

/-- Resolves submitted values of a pinned parameter to recorded ones, in order. -/
def restoreValues (p : Parameter) (name : String) (confidential : Bool) :
    List String → Except Violation (List String)
  | [] => pure []
  | v :: rest =>
    match p.resolve v confidential with
    | some recorded => (recorded :: ·) <$> restoreValues p name confidential rest
    | none => throw (.parameterTampered name v p.values)

/-- Checks the submitted values of one parameter and returns the values to pass on. -/
def checkParameter (cfg : Config) (state : State) (path name : String) (submitted : List String) :
    Except Violation (List String) :=
  if cfg.isExempt path name then pure submitted
  else match state.parameter? name with
    | none =>
      if cfg.rejectUndeclaredParameters then throw (.undeclaredParameter name) else pure submitted
    | some p =>
      if p.editable then pure submitted
      else if submitted.length > p.values.length then
        throw (.tooManyValues name submitted.length p.values.length)
      else restoreValues p name cfg.confidentiality submitted

/-- The first required parameter of a state that was not submitted and is not exempt. -/
def missingRequired (cfg : Config) (state : State) (path : String)
    (params : NameMap (List String)) : Option String :=
  (state.parameters.entries.find? fun (_, p) =>
    p.required && !params.contains p.name && !cfg.isExempt path p.name).map (·.2.name)

/-- The integrity check of submitted parameters against a state; returns the restored
parameters. -/
def integrity (cfg : Config) (state : State) (path : String) (params : NameMap (List String)) :
    Except Violation (NameMap (List String)) := do
  if state.action ≠ path then throw (.actionMismatch state.action path)
  let restored ← params.entries.mapM fun (name, submitted) => do
    pure (name, ← checkParameter cfg state path name submitted)
  match missingRequired cfg state path params with
  | some name => throw (.requiredParameterMissing name)
  | none => pure (NameMap.ofList restored)

/-- The first value of a parameter refused by the rules chosen for it, with the refusing rule. -/
def fieldError? (rules : RuleSet) (url name : String) (values : List String)
    (dataType : Option DataType) : Option FieldError :=
  let chosen := rules.select url name dataType
  values.findSome? fun v => (chosen.find? (!·.accepts v)).map fun r => ⟨url, name, v, r.name⟩

/-- The field errors of the parameters that pass on, in name order. -/
def fieldErrors (cfg : Config) (state : Option State) (url : String)
    (params : NameMap (List String)) : List FieldError :=
  if !cfg.editableValidation then []
  else params.entries.filterMap fun (name, values) =>
    if cfg.isExempt url name then none
    else
      let kind : Option (Option DataType) := match state.bind (·.parameter? name) with
        | none => some none
        | some p => if p.editable then some p.dataType else none
      kind.bind (fieldError? cfg.rules url name values)

end Validation

/-- A request that passed the integrity check. -/
structure Passed where
  /-- The state of the token; none on a start page without token. -/
  state : Option State
  /-- The parameters with placeholders restored, without the token. -/
  parameters : NameMap (List String)
  fieldErrors : List FieldError
  deriving Inhabited

/-- The outcome of validating a request. -/
inductive Outcome where
  | passed (p : Passed)
  | tampered (v : Violation)
  deriving Inhabited

/-- Whether the request passed without field errors. -/
def Outcome.isValid : Outcome → Bool
  | .passed p => p.fieldErrors.isEmpty
  | .tampered _ => false

/-- What a web filter does with a request. -/
inductive Decision where
  /-- Serve the request. -/
  | proceed (p : Passed)
  /-- Show the page again with its field errors. -/
  | rerender (p : Passed)
  /-- Refuse the request. -/
  | reject (v : Violation)

/-- The decision of an outcome. -/
def Outcome.decision : Outcome → Decision
  | .tampered v => .reject v
  | .passed p => if p.fieldErrors.isEmpty then .proceed p else .rerender p

namespace Decision

/-- The name of a decision. -/
def name : Decision → String
  | .proceed _ => "Proceed"
  | .rerender _ => "Rerender"
  | .reject _ => "Reject"

/-- The message shown to the user, for a refused request only. -/
def publicMessage? : Decision → Option String
  | .reject _ => some publicMessage
  | _ => none

end Decision

namespace Guard

/-- The state a token names, for a session. -/
def resolve (g : Guard) (s : Session) (raw : String) : Except Violation State := do
  let expired : Violation := .expiredOrTampered raw
  let token ← match StateToken.parse raw with
    | .ok t => pure t
    | .error _ => throw (.malformedToken raw)
  let state ← match token.body with
    | .memory pageId index nonce =>
      match ((s.cache? token.scope).getD g.appPages).page? pageId with
      | none => throw expired
      | some page =>
        if page.nonce ≠ nonce then throw expired
        else match page.state? index.toNat with
          | some st => pure st
          | none => throw expired
    | .cipher payload =>
      let key := if token.scope = .application then g.appKey else s.key
      match SealedState.ofPayload key payload with
      | .ok sealed => if sealed.scope ≠ token.scope then throw expired else pure sealed.state
      | .error _ => throw expired
  if state.scope ≠ token.scope then throw expired else pure state

/-- Validates a request of a session. -/
def validate (g : Guard) (s : Session) (r : Request) : Outcome :=
  let params := r.parameters.erase s.stateParameterName
  let checked : Except Violation (Option State × NameMap (List String)) :=
    match r.parameters.find? s.stateParameterName with
    | some [token] => do
      let st ← g.resolve s token
      let restored ← Validation.integrity g.config st r.path params
      pure (some st, restored)
    | some values => throw (.malformedToken (",".intercalate values))
    | none => if g.config.isStartPage r.path then pure (none, params) else throw .missingState
  match checked with
  | .error v => .tampered v
  | .ok (st, restored) => .passed ⟨st, restored, Validation.fieldErrors g.config st r.path restored⟩

end Guard

end FormIntegrity
