/-!
# Request methods

The five methods a composed request target may carry. A method name is read without regard to ASCII
case and written in upper case; any other name is refused with the text as given.
-/

namespace FormIntegrity

/-- The method recorded for a request target. -/
inductive Method where
  | get
  | post
  | put
  | delete
  | patch
  deriving DecidableEq, Repr, Inhabited

/-- A method name that is none of the five. -/
structure UnknownMethod where
  /-- The name as it was given. -/
  text : String
  deriving DecidableEq, Repr

namespace UnknownMethod

/-- The report of an unknown method. -/
def message (e : UnknownMethod) : String :=
  "unknown HTTP method '" ++ e.text ++ "'"

end UnknownMethod

namespace Method

/-- The five methods. -/
def all : List Method := [.get, .post, .put, .delete, .patch]

/-- The upper-case name of a method. -/
def name : Method → String
  | .get => "GET"
  | .post => "POST"
  | .put => "PUT"
  | .delete => "DELETE"
  | .patch => "PATCH"

/-- Reads a method name, ignoring the case of ASCII letters only. -/
def parse (text : String) : Except UnknownMethod Method :=
  let upper := String.ofList (text.toList.map Char.toUpper)
  match all.find? (fun m => m.name == upper) with
  | some m => .ok m
  | none => .error ⟨text⟩

end Method

end FormIntegrity
