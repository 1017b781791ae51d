/-
Methods that a body can be generated for.

Such a method is `async`, belongs to a value, names its parameters, and returns a result.
Whatever else is declared is an issue, and the first one counts, in that order.
-/
import QueryMethods.Plan
import QueryMethods.Identifier
import QueryMethods.Syntax.Method
import QueryMethods.Syntax.Shape

namespace QueryMethods

open Syntax (Method Input Pattern Ty)

/-- A method that a body can be generated for. -/
structure Candidate where
  signature : Signature
  /-- The name of the method as it is written. -/
  label : String
  /-- The identifiers of the parameters, in order. -/
  arguments : List String
  /-- The type that the result holds. -/
  okType : Ty

namespace Candidate

/-- The patterns and types of the parameters behind the receiver. -/
def typedInputs (m : Method) : List (Pattern × Ty) :=
  m.header.inputs.filterMap (fun (input, _) => match input with
    | .typed _ pattern type => some (pattern, type)
    | _ => none)

/-- The identifiers and the types of the parameters, if all are plain. -/
def plainInputs (m : Method) : Option (List (String × Ty)) :=
  (typedInputs m).mapM (fun (pattern, type) => pattern.binder.map (fun name => (name, type)))

/-- The parameters for the planning, each with the name it is bound under. -/
def parameters (inputs : List (String × Ty)) (renames : List (Option String)) :
    List Parameter :=
  (inputs.zip renames).map (fun ((name, type), rename) => ⟨plainName name, rename, type.shape⟩)

/-- The type that the result of a method holds, or why there is none. -/
def resultType (m : Method) : Except String Ty :=
  match m.header.result with
  | none => .error "expected `Result<T, E>`, found `()`"
  | some type =>
    match type.resultOk with
    | none => .error "expected `Result<T, E>`"
    | some okType => .ok okType

/-- The method as a candidate; `renames` has an entry for each parameter with a type. -/
def ofMethod (m : Method) (renames : List (Option String)) : Except Issue Candidate :=
  let name := fieldName m.header.name
  let refuse (reason : String) : Except Issue Candidate :=
    .error (.emissionFailed name "signature" reason)
  if !m.header.isAsync then .error (.notAsync name)
  else if !m.header.hasReceiver then refuse "generated methods take `&self`"
  else
    match plainInputs m with
    | none => refuse "parameters must be plain identifiers"
    | some inputs =>
      match resultType m with
      | .error reason => .error (.unsupportedReturn name reason)
      | .ok okType =>
        .ok
          { signature :=
              { name, parameters := parameters inputs renames, returns := okType.shape
                hasBody := !m.body.isEmpty }
            label := plainName m.header.name
            arguments := inputs.map (·.1)
            okType }

end Candidate

end QueryMethods
