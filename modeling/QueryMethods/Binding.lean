/-
How the parameters of a method fill the markers of its SQL.

The parameters of a method are bound in the order of its signature.  A method that
stores an entity binds fields of its first parameter instead, one for each marker.
Whether the parameters fit is reported as issues and never stops the planning.
-/
import QueryMethods.Shape
import QueryMethods.Issue
import QueryMethods.Sql.Template

namespace QueryMethods

/-- A parameter of a method: its name, the name it is bound under if that is another,
and the shape of its type. -/
structure Parameter where
  name : String
  rename : Option String
  shape : Shape
  deriving DecidableEq, Repr

namespace Parameter

/-- The name a parameter is bound under. -/
def boundName (p : Parameter) : String := p.rename.getD p.name

end Parameter

/-- Where a bound value is read. -/
inductive BindingSource
  /-- The parameter itself. -/
  | argument
  /-- A field of the parameter. -/
  | field (name : String)
  deriving DecidableEq, Repr

/-- One planned binding. -/
structure Binding where
  /-- The parameter. -/
  parameter : String
  /-- The name it is bound under. -/
  name : String
  /-- Whether a list is bound. -/
  isList : Bool
  /-- Its number among the bindings. -/
  index : Nat
  /-- Where the value is read. -/
  source : BindingSource
  deriving DecidableEq, Repr

/-- Binds every parameter, in order. -/
def bindParameters (parameters : List Parameter) : List Binding :=
  parameters.zipIdx.map (fun (p, i) => ⟨p.name, p.boundName, p.shape.isSequence, i, .argument⟩)

/-- One issue for each name that no binding has. -/
def checkNames (method : String) (names : List String) (bindings : List Binding) : List Issue :=
  (names.filter (fun name => !bindings.any (·.name == name))).map (.parameterName method)

/-- An issue if the markers are not as many as the bindings. -/
def checkCount (method : String) (markers : Nat) (bindings : List Binding) : List Issue :=
  if markers = bindings.length then [] else [.parameterCount method markers bindings.length]

/-- Binds the parameters to the conditions of a template. -/
def bindConditions (method : String) (template : Template) (parameters : List Parameter) :
    List Binding × List Issue :=
  let bindings := bindParameters parameters
  (bindings, checkCount method template.slots.length bindings)

/-- Binds, for each slot of a template, its field of one parameter. -/
def bindFields (parameter : String) (slots : List Slot) : List Binding :=
  slots.zipIdx.map (fun (slot, i) =>
    ⟨parameter, slot.fieldName, false, i, .field slot.fieldName⟩)

/-- Binds the fields of the entity that the first parameter holds. -/
def bindEntity (method : String) (template : Template) (parameters : List Parameter) :
    Except Issue (List Binding × List Issue) :=
  match parameters with
  | [] => .error (.parameterCount method 1 0)
  | [entity] => .ok (bindFields entity.name template.slots, [])
  | entity :: _ =>
    .ok (bindFields entity.name template.slots, [.parameterCount method 1 parameters.length])

end QueryMethods
