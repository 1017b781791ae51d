/-
The emitters that make code.

The emitter of a source works for one candidate and keeps no state.  A step fails when its
plan asks for something that the candidate does not have: a parameter, a field, a type of
elements, or a way to read rows.

The emitter of a block is switched from one source to the next.  It makes code for the
source it was last switched to, and before the first it fails in every step that needs one.
-/
import QueryMethods.Candidate
import QueryMethods.Code
import QueryMethods.Emitter

namespace QueryMethods

open Syntax (Path Ty Token)

/-- Why no code can be made. -/
inductive CodeError
  /-- The emitter was never switched to a source. -/
  | noSource
  /-- A binding names a parameter that is not declared. -/
  | undeclared (parameter : String)
  /-- A binding reads a field that the entity does not list. -/
  | unlisted (field : String)
  /-- Rows are read as elements of a type without elements. -/
  | noElement (type : String)
  /-- No rows are read in this number. -/
  | noRows (cardinality : Cardinality)
  deriving DecidableEq, Repr

/-- What is said of a failure. -/
def CodeError.message : CodeError → String
  | noSource => "no method is being generated"
  | undeclared parameter => s!"parameter `{parameter}` is not declared"
  | unlisted field => s!"entity field `{field}` is not listed in `fields(...)`"
  | noElement type => s!"cannot find the element type of `{type}`"
  | noRows cardinality => s!"{cardinality.name} results are not mapped from rows"

/-- What code is made for. -/
structure CodeSource where
  /-- The field of the repository that runs statements. -/
  executor : String
  /-- The fields of the entity: the name that methods use for each, and its identifier. -/
  fields : List (String × String)
  candidate : Candidate
  /-- The type that rows are read as before they become the declared one. -/
  through : Option Path

namespace CodeSource

/-- The identifier of a parameter. -/
def argument (s : CodeSource) (parameter : String) : Except CodeError String :=
  match s.candidate.arguments.find? (fun name => plainName name == parameter) with
  | some name => .ok name
  | none => .error (.undeclared parameter)

/-- The identifier of a field; of several with one name the last counts. -/
def fieldIdentifier (s : CodeSource) (field : String) : Except CodeError String :=
  match s.fields.reverse.lookup field with
  | some name => .ok name
  | none => .error (.unlisted field)

/-- The value of a binding. -/
def operand (s : CodeSource) (b : Binding) : Except CodeError Operand := do
  let argument ← s.argument b.parameter
  match b.source with
  | .argument => pure ⟨argument, none⟩
  | .field field => pure ⟨argument, some (← s.fieldIdentifier field)⟩

/-- The value of a binding, with the name it is bound under. -/
def namedOperand (s : CodeSource) (b : Binding) : Except CodeError (String × Operand) := do
  pure (b.name, ← s.operand b)

/-- The query of a plan. -/
def query (s : CodeSource) (call : Call) (plan : Plan) : Except CodeError Query := do
  let operands ← plan.bindings.mapM s.namedOperand
  pure
    { label := s.candidate.label, executor := s.executor, call, sql := plan.sql
      style := plan.style, operands }

/-- The type that one row is read as. -/
def element (s : CodeSource) (cardinality : Cardinality) : Except CodeError Ty :=
  let okType := s.candidate.okType
  match cardinality with
  | .list | .optional =>
    match okType.firstArgument with
    | some type => .ok type
    | none => .error (.noElement (Token.rowText okType.tokens))
  | _ => .ok okType

/-- The form in which the rows of a mapping are read, if any are. -/
def rowForm (s : CodeSource) (m : Mapping) : Option RowForm :=
  match m.row, m.via, s.through with
  | .nothing, _, _ => none
  | .scalar _, _, _ => some .scalar
  | _, some _, some type => some (.through type)
  | _, _, _ => some .record

/-- How the rows of a plan are read. -/
def rowReading (s : CodeSource) (plan : Plan) : Except CodeError RowReading := do
  let target ← s.element plan.cardinality
  match s.rowForm plan.mapping with
  | none => throw (.noRows plan.cardinality)
  | some form =>
    pure { renames := if plan.mapping.row = .renamed then plan.mapping.columns else [], form, target }

end CodeSource

/-- The request for the rows or the scalar of a plan. -/
def Cardinality.call : Cardinality → Call
  | list => .fetchAll
  | optional => .fetchOptional
  | single => .fetchOne
  | scalar | boolean => .fetchScalar
  | void => .execute

namespace Code

/-- A fetched scalar, as its plan casts it.  What an executed statement yields is a number,
which is bound before it is read like any other value. -/
def cast (okType : Ty) (plan : Plan) (fetched : Code) : ScalarCast → Code
  | .to _ => readValue okType (value fetched)
  | .countToBool => isPositive (readValue (.path (.ofName "i64")) (value fetched))
where
  /-- The value that is read. -/
  value (fetched : Code) : Code := if plan.kind.isMutation then bound fetched else fetched

/-- Fetched rows, as their number asks. -/
def mapped (reading : RowReading) (fetched : Code) : Cardinality → Except CodeError Code
  | .list => .ok (everyRow reading fetched)
  | .optional => .ok (possibleRow reading fetched)
  | .single => .ok (oneRow reading fetched)
  | cardinality => .error (.noRows cardinality)

/-- A value as a body. -/
def body (value : Code) : Cardinality → Code
  | .void => done value
  | _ => answer value

end Code

/-- The emitter that makes code for a source. -/
def CodeSource.emitter (s : CodeSource) : Emitter Unit CodeError Code where
  select plan := ExceptT.mk (pure ((s.query plan.cardinality.call plan).map .query))
  update plan := ExceptT.mk (pure ((s.query .execute plan).map .query))
  cast fetched cast plan := pure (.cast s.candidate.okType plan fetched cast)
  mapping fetched plan := ExceptT.mk (pure do
    let reading ← s.rowReading plan
    Code.mapped reading fetched plan.cardinality)
  constant value := pure (.literal value)
  placeholder _ cardinality :=
    pure (.placeholder s.candidate.label s.candidate.okType cardinality)
  finish body plan := pure (.body body plan.cardinality)
  describe e := e.message

/-- A step that the emitter of the current source makes, if there is one. -/
def CodeSource.stepOfCurrent (step : Emitter Unit CodeError Code → Step Unit CodeError Code) :
    Step (Option CodeSource) CodeError Code :=
  ExceptT.mk (fun current => match current with
    | some source => (((step source.emitter).run ()).1, current)
    | none => (.error .noSource, current))

/-- The emitter of a block, whose state is the source that it makes code for. -/
def CodeSource.blockEmitter : Emitter (Option CodeSource) CodeError Code where
  select plan := stepOfCurrent (·.select plan)
  update plan := stepOfCurrent (·.update plan)
  cast fetched cast plan := stepOfCurrent (·.cast fetched cast plan)
  mapping fetched plan := stepOfCurrent (·.mapping fetched plan)
  constant value := pure (.literal value)
  placeholder method cardinality := stepOfCurrent (·.placeholder method cardinality)
  finish body plan := pure (.body body plan.cardinality)
  describe e := e.message

end QueryMethods
