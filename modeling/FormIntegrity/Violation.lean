import FormIntegrity.Text.Quoted
import FormIntegrity.Text.Decimal

/-!
# Violations

Why a request is refused as tampered, and why an editable value is refused by a rule. Every refused
request gets the same public message, so that the response tells an attacker nothing; the full
description is for the application's own use.
-/

namespace FormIntegrity

/-- The message shown to the user of a refused request. -/
def publicMessage : String := "The request could not be validated."

/-- Why a request is refused as tampered. -/
inductive Violation where
  /-- No token, and the path is not a start page. -/
  | missingState
  /-- The token does not read, or several tokens were sent. -/
  | malformedToken (token : String)
  /-- The token names no state that is still held, or does not open. -/
  | expiredOrTampered (token : String)
  /-- The request goes to another action than the state's. -/
  | actionMismatch (expected actual : String)
  /-- A submitted value is none of the recorded ones. -/
  | parameterTampered (parameter submitted : String) (expected : List String)
  /-- More values were submitted than recorded. -/
  | tooManyValues (parameter : String) (submitted recorded : Nat)
  /-- A required parameter is absent. -/
  | requiredParameterMissing (parameter : String)
  /-- A parameter the state does not declare. -/
  | undeclaredParameter (parameter : String)
  deriving DecidableEq, Repr

namespace Violation

/-- The parameter a violation is about. -/
def parameter? : Violation → Option String
  | .parameterTampered p _ _ | .tooManyValues p _ _ | .requiredParameterMissing p
  | .undeclaredParameter p => some p
  | _ => none

/-- The description of a violation. -/
def message : Violation → String
  | .missingState => "missing state token"
  | .malformedToken t => "malformed state token '" ++ t ++ "'"
  | .expiredOrTampered t => "expired or tampered state '" ++ t ++ "'"
  | .actionMismatch e a => "action mismatch: expected '" ++ e ++ "', got '" ++ a ++ "'"
  | .parameterTampered p s e =>
    "parameter '" ++ p ++ "' tampered: submitted '" ++ s ++ "', expected one of " ++ Quoted.quoteList e
  | .tooManyValues p s r =>
    "parameter '" ++ p ++ "' has " ++ Decimal.write s ++ " values, " ++ Decimal.write r ++ " recorded"
  | .requiredParameterMissing p => "required parameter '" ++ p ++ "' missing"
  | .undeclaredParameter p => "undeclared parameter '" ++ p ++ "'"

end Violation

/-- An editable value refused by a whitelist rule. -/
structure FieldError where
  url : String
  parameter : String
  value : String
  rule : String
  deriving DecidableEq, Repr

/-- The description of a field error. -/
def FieldError.message (e : FieldError) : String :=
  "value of '" ++ e.parameter ++ "' rejected by rule '" ++ e.rule ++ "'"

end FormIntegrity
