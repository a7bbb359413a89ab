import FormIntegrity.Json.Decode

/-!
# Data types of form controls

An editable value may say which kind of form control it came from, so that whitelist rules can be
limited to some kinds. Names are written in lower case.
-/

namespace FormIntegrity

/-- The kind of form control an editable value came from. -/
inductive DataType where
  | text
  | textarea
  | password
  | hidden
  | choice
  deriving DecidableEq, Repr, Inhabited

namespace DataType

/-- The five kinds, in the order of their names' positions. -/
def all : List DataType := [.text, .textarea, .password, .hidden, .choice]

/-- The lower-case name of a kind. -/
def name : DataType → String
  | .text => "text"
  | .textarea => "textarea"
  | .password => "password"
  | .hidden => "hidden"
  | .choice => "choice"

/-- The kind with a name, compared exactly. -/
def ofName? (s : String) : Option DataType :=
  all.find? (·.name == s)

end DataType

/-- A kind of form control by its lower-case name. -/
def Json.Value.asDataType? (v : Json.Value) : Option DataType :=
  (v.asChoice? (DataType.all.map DataType.name)).bind (DataType.all[·]?)

end FormIntegrity
