import FormIntegrity.NameMap
import FormIntegrity.DataType
import FormIntegrity.Method
import FormIntegrity.Scope
import FormIntegrity.Placeholder

/-!
# Recorded states

A state is what a page recorded about one request target it rendered: its position on the page,
its scope, the method and action of the request, and every parameter with the values the page
showed. A parameter is editable when the user may type its value, and required when it came from
the action's query. Once a parameter is editable it stays editable: a value the user may change
cannot also be pinned.

A submitted value is resolved against a parameter: with confidentiality on, a placeholder `~i`
stands for the `i`-th recorded value; otherwise, or when there is no such value, the submitted value
must equal a recorded one.
-/

namespace FormIntegrity

/-- A parameter of a recorded request target. -/
structure Parameter where
  name : String
  values : List String := []
  editable : Bool
  required : Bool := false
  dataType : Option DataType
  deriving DecidableEq, Repr, Inhabited

namespace Parameter

/-- Whether more than one value was recorded. -/
def isMultiValued (p : Parameter) : Bool :=
  p.values.length > 1

/-- The recorded value a submitted value stands for. -/
def resolve (p : Parameter) (submitted : String) (confidential : Bool) : Option String :=
  let byPlaceholder :=
    if confidential then (Placeholder.read? submitted).bind fun i => p.values[i.toNat]? else none
  match byPlaceholder with
  | some v => some v
  | none => p.values.find? (· == submitted)

/-- The parameter made editable; a given kind of control replaces the recorded one. -/
def markEditable (p : Parameter) (dataType : Option DataType) : Parameter :=
  { p with editable := true, dataType := dataType.orElse fun _ => p.dataType }

end Parameter

/-- A recorded request target. -/
structure State where
  index : Nat
  scope : Scope
  method : Method
  action : String
  parameters : NameMap Parameter := NameMap.empty
  deriving Inhabited

namespace State

/-- The parameter recorded under a name. -/
def parameter? (s : State) (name : String) : Option Parameter :=
  s.parameters.find? name

/-- Declares a parameter: a new one is created with the given editability and kind; an existing
one becomes editable when `editable` is set and it was not. -/
def declare (s : State) (name : String) (editable : Bool) (dataType : Option DataType) : State :=
  { s with parameters := s.parameters.alter name fun
      | none => { name, editable, dataType }
      | some p => if editable && !p.editable then p.markEditable dataType else p }

/-- Records a value of a parameter, declared as by `declare`; returns the value's position. -/
def record (s : State) (name value : String) (editable : Bool) (dataType : Option DataType) :
    State × Nat :=
  let s := s.declare name editable dataType
  let count := ((s.parameter? name).map (·.values.length)).getD 0
  ({ s with parameters := s.parameters.alter name fun
      | none => { name, values := [value], editable, dataType }
      | some p => { p with values := p.values ++ [value] } }, count)

/-- Marks a parameter as required. -/
def require (s : State) (name : String) : State :=
  { s with parameters := s.parameters.alter name fun
      | none => { name, editable := false, required := true, dataType := none }
      | some p => { p with required := true } }

end State

end FormIntegrity
