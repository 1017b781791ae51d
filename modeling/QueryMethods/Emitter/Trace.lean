/-
An emitter that writes bodies as plain text and keeps a record of its steps.

It is for looking at what a generation does: every step is noted with the SQL and the
number of bindings of its plan, and steps or SQL that it is told to refuse fail.
-/
import QueryMethods.Emitter

namespace QueryMethods.Trace

/-- One step of a generation: its name and what its plan held, if it had one. -/
structure Entry where
  step : String
  plan : Option (String × Nat)
  deriving DecidableEq, Repr

/-- What to refuse: steps by name, and queries that contain a fragment. -/
structure Refusals where
  steps : List String
  fragments : List String

/-- The name of a scalar kind. -/
def kindName : ScalarKind → String
  | .text => "text"
  | .int => "int"
  | .long => "long"
  | .double => "double"
  | .bool => "bool"
  | .decimal => "decimal"

/-- The name of a row rule. -/
def ruleName : RowRule → String
  | .record => "bean"
  | .columns => "column_map"
  | .scalar kind => "scalar_" ++ kindName kind
  | .renamed => "remapped"
  | .nothing => "none"

/-- The name of a cast. -/
def castName : ScalarCast → String
  | .to kind => "to_" ++ kindName kind
  | .countToBool => "count_to_bool"

/-- Whether a text stands somewhere inside another. -/
def occursIn (part : List Char) : List Char → Bool
  | [] => part.isEmpty
  | c :: rest => part.isPrefixOf (c :: rest) || occursIn part rest

/-- Notes a step, then fails if the step is refused. -/
def note (refusals : Refusals) (step : String) (plan : Option Plan) :
    Step (List Entry) String Unit := do
  modify (· ++ [⟨step, plan.map (fun p => (p.sql, p.bindings.length))⟩])
  if step ∈ refusals.steps then throw s!"refused: {step}"

/-- Fails if the SQL of a plan contains a refused fragment. -/
def checkSql (refusals : Refusals) (plan : Plan) : Step (List Entry) String Unit :=
  match refusals.fragments.find? (fun f => occursIn f.toList plan.sql.toList) with
  | some fragment => throw s!"refused: {fragment}"
  | none => pure ()

/-- The emitter that traces. -/
def emitter (refusals : Refusals) : Emitter (List Entry) String String where
  select plan := do
    note refusals "select" (some plan)
    checkSql refusals plan
    pure s!"select[{plan.cardinality.name}]({plan.sql})"
  update plan := do
    note refusals "update" (some plan)
    checkSql refusals plan
    pure s!"update({plan.sql})"
  cast fetched cast plan := do
    note refusals "cast" (some plan)
    pure s!"{castName cast}({fetched})"
  mapping fetched plan := do
    note refusals "mapping" (some plan)
    pure s!"map[{ruleName plan.mapping.row}]({fetched})"
  constant value := do
    note refusals "constant" none
    pure (if value then "true" else "false")
  placeholder method cardinality := do
    note refusals "placeholder" none
    pure s!"placeholder[{cardinality.name}]({method})"
  finish body plan := do
    note refusals "finish" (some plan)
    pure s!"ok({body})"
  describe e := e

end QueryMethods.Trace
