/-
What generated code does.

Code runs over an executor, with data for its arguments.  It stops at the first failure,
of the executor or of reading a result, and it has no meaning where it is given data that
the compiler would have refused.
-/
import QueryMethods.Code
import QueryMethods.Executor
import QueryMethods.Library

namespace QueryMethods

open Syntax (Ty)

/-- What code runs with. -/
structure Execution (σ : Type) where
  library : Library
  executor : Executor σ
  /-- The arguments by their identifiers. -/
  arguments : List (String × Datum)

/-- A run: without meaning, failed, or done. -/
abbrev Run (σ α : Type) := OptionT (Request σ) α

/-- A run that fails or is done at once. -/
def Run.ofExcept {σ α : Type} (e : Except Failure α) : Run σ α :=
  OptionT.lift (Executor.answer e)

/-- A run that has a meaning only if there is a value. -/
def Run.ofOption {σ α : Type} (o : Option α) : Run σ α := OptionT.mk (pure o)

/-- The value that a datum is bound as. -/
def Datum.value? : Datum → Option Value
  | typed t x => some (t.encode x)
  | _ => none

/-- A field of a record. -/
def Datum.field? (name : String) : Datum → Option Datum
  | record fields => fields.lookup name
  | _ => none

/-- The datum that an operand stands for. -/
def Operand.datum (o : Operand) (arguments : List (String × Datum)) : Option Datum :=
  match o.field with
  | none => arguments.lookup o.argument
  | some field => (arguments.lookup o.argument).bind (Datum.field? field)

namespace Query

/-- The statement of a query with the given arguments. -/
def statement (q : Query) (arguments : List (String × Datum)) : Option BoundStatement := do
  let values ← q.operands.mapM (fun (name, o) => do
    pure (name, ← (← o.datum arguments).value?))
  pure ⟨q.sql, match q.style with
    | .positional => .positional (values.map (·.2))
    | .named => .named values⟩

end Query

/-- Makes a request of an executor. -/
def Call.request {σ : Type} (call : Call) (e : Executor σ) (s : BoundStatement) :
    Request σ Datum :=
  match call with
  | fetchAll => do pure (.list ((← e.fetchAll s).map .row))
  | fetchOptional => do pure (.option ((← e.fetchOptional s).map .row))
  | fetchOne => do pure (.row (← e.fetchOne s))
  | fetchScalar => do pure (.typed .value (← e.fetchScalar s))
  | execute => do pure (.typed (.integer .u64) (IntegerType.ofWord (← e.execute s)))

namespace RowReading

/-- What becomes of the rows that are read: a failure or a datum, or no meaning. -/
def read (reading : RowReading) (l : Library) (d : Datum) : Option (Except Failure Datum) :=
  match d with
  | .row row =>
    let row := row.remap reading.renames
    match reading.form with
    | .scalar => reading.target.valueType?.map
        (fun t => (row.first >>= t.decode).map (.typed t))
    | .record => (l.reader reading.target).map (fun read => read row)
    | .through type => (l.reader (.path type)).bind (fun read =>
        match read row with
        | .error e => some (.error e)
        | .ok d => (l.convert (.path type) reading.target d).map .ok)
  | _ => none

/-- Reads a row in a run. -/
def run {σ : Type} (reading : RowReading) (l : Library) (d : Datum) : Run σ Datum := do
  Run.ofExcept (← Run.ofOption (reading.read l d))

end RowReading

/-- What the body of a method without a query answers with. -/
def placeholderAnswer (type : Ty) : Cardinality → Option Datum
  | .list => some (.list [])
  | .scalar => type.valueType?.map (fun t => .typed t t.defaultValue)
  | .optional => some (.option none)
  | .boolean => some (.typed .bool false)
  | .void => some .unit
  | .single => none

namespace Code

variable {σ : Type}

/-- Reads a value as a type. -/
def readDatum (type : Ty) : Datum → Run σ Datum
  | .typed .value v => do
    let t ← Run.ofOption type.valueType?
    Run.ofExcept ((t.decode v).map (.typed t))
  | _ => failure

/-- Runs code. -/
def run (x : Execution σ) : Code → Run σ Datum
  | query q => do
    let s ← Run.ofOption (q.statement x.arguments)
    OptionT.lift (q.call.request x.executor s)
  | bound c => do
    match (← run x c).value? with
    | some v => pure (.typed .value v)
    | none => failure
  | readValue type c => do readDatum type (← run x c)
  | isPositive c => do
    match ← run x c with
    | .typed (.integer _) n => pure (.typed .bool (decide (0 < n.val)))
    | _ => failure
  | everyRow reading c => do
    match ← run x c with
    | .list rows => do pure (.list (← rows.mapM (reading.run x.library)))
    | _ => failure
  | possibleRow reading c => do
    match ← run x c with
    | .option none => pure (.option none)
    | .option (some row) => do pure (.option (some (← reading.run x.library row)))
    | _ => failure
  | oneRow reading c => do reading.run x.library (← run x c)
  | literal b => pure (.typed .bool b)
  | answer c => run x c
  | done c => do
    let _ ← run x c
    pure .unit
  | placeholder _ type cardinality => Run.ofOption (placeholderAnswer type cardinality)

end Code

end QueryMethods
