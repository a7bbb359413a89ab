import FormIntegrity.NameMap
import FormIntegrity.Method
import FormIntegrity.Query

/-!
# Inbound requests

A request as the guard sees it: its method, its path, and its parameters by name, each name with
its values in the order they came. A request can be read from a URI: the path is the text before
the first `?`, and the query after it is split into pairs and decoded; a request whose query does
not decode to UTF-8 text cannot be read.
-/

namespace FormIntegrity

/-- A request to validate. -/
structure Request where
  method : Method
  path : String
  parameters : NameMap (List String) := NameMap.empty
  deriving Inhabited

namespace Request

/-- The request with one more value of a parameter. -/
def add (r : Request) (name value : String) : Request :=
  { r with parameters := r.parameters.push name value }

/-- The values of a parameter. -/
def values (r : Request) (name : String) : List String :=
  (r.parameters.find? name).getD []

/-- Adds decoded query pairs in order; fails when one does not decode. -/
def addPairs (r : Request) : List (String × String) → Option Request
  | [] => some r
  | (n, v) :: rest => do
    let name ← Query.decodeComponent? n
    let value ← Query.decodeComponent? v
    (r.add name value).addPairs rest

/-- The request of a method and a URI. -/
def ofUri? (method : Method) (uri : String) : Option Request :=
  let (path, query) := Query.splitTarget uri
  ({ method, path } : Request).addPairs (Query.pairs query)

end Request

end FormIntegrity
