/-
From plans to bodies.

Each method is planned and emitted on its own, one after the other over the state of the
emitter.  A method that asks whether a row exists is tried in several ways: with a query
that answers a boolean, with a count compared to zero, and at last with the literal
`false`.  Every way that fails leaves an issue behind.
-/
import QueryMethods.Planning
import QueryMethods.Emitter

namespace QueryMethods

/-- What the fetched scalar of a plan is turned into; `counts` says that it is a count. -/
def scalarCast (plan : Plan) (counts : Bool) : ScalarCast :=
  if plan.cardinality = .boolean ∧ counts then .countToBool
  else
    match plan.mapping.row with
    | .scalar kind => .to kind
    | _ => .to .long

/-- Whether the plan is executed for the number of rows it changes. -/
def Plan.executes (plan : Plan) : Bool :=
  plan.cardinality == .void || (plan.kind.isMutation && plan.cardinality.isScalar)

variable {σ ε ω : Type}

/-- The value of a plan, before it is wrapped into a body. -/
def emitValue (emitter : Emitter σ ε ω) (plan : Plan) (counts : Bool) : Step σ ε ω := do
  if plan.executes then
    let fetched ← emitter.update plan
    if plan.cardinality.isScalar then emitter.cast fetched (scalarCast plan true) plan
    else pure fetched
  else
    let fetched ← emitter.select plan
    if plan.cardinality.isScalar then emitter.cast fetched (scalarCast plan counts) plan
    else emitter.mapping fetched plan

/-- The body of a plan. -/
def emitPlan (emitter : Emitter σ ε ω) (plan : Plan) (counts : Bool) : Step σ ε ω := do
  let value ← emitValue emitter plan counts
  emitter.finish value plan

/-- The plan of an existence method in one of its ways. -/
def existsPlan (context : Context) (plan : Plan) : ExistsWay → Plan
  | .literalFalse => { plan with sql := "", bindings := [] }
  | way =>
    match context.entity with
    | none => plan
    | some entity =>
      match entity.existsTemplate context.naming (MethodName.ofText plan.method) way with
      | .ok template => { plan with sql := template.sql }
      | .error _ => plan

/-- The body of an existence method in one of its ways. -/
def emitWay (emitter : Emitter σ ε ω) (plan : Plan) : ExistsWay → Step σ ε ω
  | .booleanCase => emitPlan emitter plan false
  | .countComparison => emitPlan emitter plan true
  | .literalFalse => do
    let value ← emitter.constant false
    emitter.finish value plan

/-- Tries the ways of an existence method in turn; answers the first body, if any, and an
issue for each way that failed. -/
def emitExists (context : Context) (emitter : Emitter σ ε ω) (plan : Plan) :
    List ExistsWay → StateM σ (Option ω × List Issue)
  | [] => pure (none, [])
  | way :: ways => do
    match ← (emitWay emitter (existsPlan context plan way) way).run with
    | .ok body => pure (some body, [])
    | .error e =>
      let issue := .emissionFailed plan.method ("exists " ++ way.name) (emitter.describe e)
      let (body, issues) ← emitExists context emitter plan ways
      pure (body, issue :: issues)

/-- Emits the plan of a method whose operation is known; `none` stands for SQL written by
hand. -/
def emitMethod (context : Context) (emitter : Emitter σ ε ω) (operation : Option Operation)
    (plan : Plan) : StateM σ (Option ω × List Issue) := do
  if operation = some .exist then emitExists context emitter plan ExistsWay.chain
  else
    match ← (emitPlan emitter plan (operation == some .count)).run with
    | .ok body => pure (some body, [])
    | .error e => pure (none, [.emissionFailed plan.method "emit" (emitter.describe e)])

/-- Emits the body that says that no convention applies. -/
def emitPlaceholder (emitter : Emitter σ ε ω) (signature : Signature) (method : String)
    (issues : List Issue) : StateM σ (Outcome ω) := do
  let cardinality := (resolveMapping method signature.returns .auto [] none).cardinality
  match ← (emitter.placeholder method cardinality).run with
  | .ok body => pure (.unsupported method issues (some body))
  | .error e =>
    pure (.kept method (issues ++ [.emissionFailed method "placeholder" (emitter.describe e)]))

/-- Emits what was planned, adding to the issues of the plan. -/
def emitPlanned (context : Context) (emitter : Emitter σ ε ω) (signature : Signature)
    (operation : Option Operation) (plan : Plan) (issues : List Issue) :
    StateM σ (Outcome ω) := do
  let (body, failures) ← emitMethod context emitter operation plan
  match body with
  | some body => pure (.ofIssues body (issues ++ failures))
  | none => pure (.kept signature.name (issues ++ failures))

/-- Plans and emits one method. -/
def generateMethod (context : Context) (emitter : Emitter σ ε ω) (signature : Signature)
    (query : Option NativeQuery) : StateM σ (Outcome ω) :=
  let operation := match query with
    | some _ => none
    | none => some (MethodName.ofText signature.name).operation
  match planMethod context signature query with
  | .clean plan => emitPlanned context emitter signature operation plan []
  | .warned plan issues => emitPlanned context emitter signature operation plan issues
  | .unsupported method issues _ => emitPlaceholder emitter signature method issues
  | .kept method issues => pure (.kept method issues)
  | .skipped method => pure (.skipped method)

/-- Generates every method, in order. -/
def generateAll (context : Context) (emitter : Emitter σ ε ω)
    (methods : List (Signature × Option NativeQuery)) : StateM σ (List (Outcome ω)) :=
  methods.mapM (fun (signature, query) => generateMethod context emitter signature query)

end QueryMethods
