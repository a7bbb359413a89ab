import FormIntegrity.State
import FormIntegrity.Token
import FormIntegrity.Json.Reader
import FormIntegrity.Json.Decode
import FormIntegrity.Text.Utf8
import FormIntegrity.Cipher.Basic

/-!
# Sealed states

Under the cipher strategy a token carries its state: the scope of the token, the page id and the
state are written as compact JSON and sealed. The document is

`{"scope":S,"page_id":N,"state":{"index":N,"scope":S,"method":M,"action":A,"parameters":P}}`

where a scope is `Page`, `UserSession` or `Application`, a method is `Get`, `Post`, `Put`,
`Delete` or `Patch`, and `P` maps each parameter's key to
`{"name":A,"values":[..],"editable":B,"required":B,"data_type":null or a kind}`.

Opening reads the document back by the record rules of `Json.Decode`: unknown members are ignored,
every field is required except `data_type`, which an object may leave out, and a key given twice in
the parameter map keeps its last value. A payload that does not open, or whose document does not
read, is refused.
-/

namespace FormIntegrity

/-- The content of a cipher token. -/
structure SealedState where
  scope : Scope
  pageId : UInt64
  state : State
  deriving Inhabited

namespace SealedState

/-- The names of the scopes in a sealed document. -/
def scopeNames : List String := ["Page", "UserSession", "Application"]

/-- The names of the methods in a sealed document. -/
def methodNames : List String := ["Get", "Post", "Put", "Delete", "Patch"]

/-- The name of a scope in a sealed document. -/
def scopeName (s : Scope) : String :=
  (scopeNames[(Scope.all.idxOf s)]?).getD ""

/-- The name of a method in a sealed document. -/
def methodName (m : Method) : String :=
  (methodNames[(Method.all.idxOf m)]?).getD ""

/-- The document of a parameter. -/
def parameterValue (p : Parameter) : Json.Value :=
  .obj [("name", .str p.name), ("values", .arr (p.values.map .str)),
    ("editable", .bool p.editable), ("required", .bool p.required),
    ("data_type", match p.dataType with
      | some d => .str d.name
      | none => .null)]

/-- The document of a state. -/
def stateValue (s : State) : Json.Value :=
  .obj [("index", .int s.index), ("scope", .str (scopeName s.scope)),
    ("method", .str (methodName s.method)), ("action", .str s.action),
    ("parameters", .obj (s.parameters.entries.map fun (k, p) => (k, parameterValue p)))]

/-- The document of a sealed state. -/
def toValue (s : SealedState) : Json.Value :=
  .obj [("scope", .str (scopeName s.scope)), ("page_id", .int s.pageId.toNat),
    ("state", stateValue s.state)]

/-- The compact text of a sealed state. -/
def toText (s : SealedState) : String :=
  s.toValue.write

end SealedState

namespace Json

/-- A scope by its sealed name. -/
def Value.asScope? (v : Value) : Option Scope :=
  (v.asChoice? SealedState.scopeNames).bind (Scope.all[·]?)

/-- A method by its sealed name. -/
def Value.asMethod? (v : Value) : Option Method :=
  (v.asChoice? SealedState.methodNames).bind (Method.all[·]?)

/-- A parameter as a record `name, values, editable, required, data_type`. -/
def Value.asParameter? (v : Value) : Option Parameter := do
  let f ← v.fields? ["name", "values", "editable", "required", "data_type"]
  pure {
    name := ← f.required 0 Value.asString?
    values := ← f.required 1 (Value.asList? Value.asString?)
    editable := ← f.required 2 Value.asBool?
    required := ← f.required 3 Value.asBool?
    dataType := ← f.optional 4 Value.asDataType? }

/-- A state as a record `index, scope, method, action, parameters`. -/
def Value.asState? (v : Value) : Option State := do
  let f ← v.fields? ["index", "scope", "method", "action", "parameters"]
  pure {
    index := (← f.required 0 Value.asCount?).toNat
    scope := ← f.required 1 Value.asScope?
    method := ← f.required 2 Value.asMethod?
    action := ← f.required 3 Value.asString?
    parameters := ← f.required 4 (Value.asMap? Value.asParameter?) }

/-- A sealed state as a record `scope, page_id, state`. -/
def Value.asSealedState? (v : Value) : Option SealedState := do
  let f ← v.fields? ["scope", "page_id", "state"]
  pure {
    scope := ← f.required 0 Value.asScope?
    pageId := ← f.required 1 Value.asCount?
    state := ← f.required 2 Value.asState? }

end Json

namespace SealedState

/-- Reads a sealed document from its bytes. -/
def ofBytes? (bytes : List UInt8) : Option SealedState :=
  (Utf8.decode? bytes).bind fun text => (Json.read? text).bind Json.Value.asSealedState?

/-- Seals a state into a cipher token of its scope, with a 24-byte nonce. -/
def toToken (s : SealedState) (key : CipherKey) (nonce : List UInt8) : StateToken :=
  { scope := s.scope, body := .cipher (Cipher.encrypt key nonce (Utf8.encode s.toText)) }

/-- Opens the payload of a cipher token. -/
def ofPayload (key : CipherKey) (payload : List UInt8) : Except CipherError SealedState := do
  match SealedState.ofBytes? (← Cipher.decrypt key payload) with
  | some s => pure s
  | none => throw .decryptionFailed

end SealedState

end FormIntegrity
