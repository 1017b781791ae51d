/-
From a signature to a plan.

A method with hand-written SQL is planned from that SQL.  Any other is planned from its
name: the name gives the template, the template gives the bindings, and the declared type
gives the mapping.  Issues are collected in that order and the plan is made in spite of
them; only a name without SQL, or an entity that is not passed, leaves a method unplanned.
-/
import QueryMethods.Plan
import QueryMethods.Outcome
import QueryMethods.MethodName.Reader
import QueryMethods.Sql.Derived
import QueryMethods.Sql.Marker

namespace QueryMethods

/-- One issue for each condition on a field that the entity does not declare. -/
def checkFields (method : String) (entity : Entity) (name : MethodName) : List Issue :=
  (name.fields.filter (fun f => !entity.has f)).map (.unknownField method)

/-- The bindings of a template under its operation. -/
def bindTemplate (signature : Signature) (operation : Operation) (template : Template) :
    Except Issue (List Binding × List Issue) :=
  match operation with
  | .save | .update => bindEntity signature.name template signature.parameters
  | _ => .ok (bindConditions signature.name template signature.parameters)

/-- The plan of a template whose values are bound. -/
def Template.plan (template : Template) (signature : Signature) (bindings : List Binding)
    (resolution : Resolution) : Plan :=
  { method := signature.name, sql := template.sql, kind := template.kind, style := .positional
    bindings, mapping := resolution.mapping, cardinality := resolution.cardinality }

/-- Plans a method from what its name says of an entity. -/
def planFromEntity (context : Context) (entity : Entity) (signature : Signature)
    (name : MethodName) : Outcome Plan :=
  let unknown := checkFields signature.name entity name
  match entity.template context.naming name with
  | .error e => .kept signature.name (unknown ++ [.emissionFailed signature.name "statement" e.message])
  | .ok template =>
    match bindTemplate signature name.operation template with
    | .error issue => .kept signature.name (unknown ++ [issue])
    | .ok (bindings, unbound) =>
      let resolution := resolveMapping signature.name signature.returns .auto [] none
      .ofIssues (template.plan signature bindings resolution)
        (unknown ++ unbound ++ resolution.issues)

/-- Plans a method from its name. -/
def planDerived (context : Context) (signature : Signature) : Outcome Plan :=
  if signature.hasBody then .skipped signature.name
  else
    let name := MethodName.ofText signature.name
    match context.entity with
    | none => .noConvention signature.name
    | some entity =>
      if name.operation = .unknown ∨ context.nativeOnly then .noConvention signature.name
      else planFromEntity context entity signature name

/-- The style of hand-written SQL: by name as soon as it has a named marker. -/
def detectedStyle (sql : String) : BindingStyle :=
  if (markerNames sql).isEmpty then .positional else .named

/-- The style a hand-written query is bound in. -/
def NativeQuery.boundStyle (query : NativeQuery) : BindingStyle :=
  query.style.getD (detectedStyle query.sql)

/-- What a hand-written query does to rows. -/
def NativeQuery.kind (query : NativeQuery) : StatementKind :=
  match query.isUpdate, StatementKind.ofSql query.sql with
  | true, .select => .update
  | _, kind => kind

/-- The issues of the parameters of a hand-written query. -/
def NativeQuery.check (query : NativeQuery) (method : String) (bindings : List Binding) :
    List Issue :=
  if query.validate then
    match query.boundStyle with
    | .named => checkNames method (markerNames query.sql) bindings
    | .positional => checkCount method (positionalMarkers query.sql) bindings
  else []

/-- Plans a method from SQL written by hand. -/
def planNative (signature : Signature) (query : NativeQuery) : Outcome Plan :=
  let bindings := bindParameters signature.parameters
  let resolution := resolveMapping signature.name signature.returns query.mapping query.columns
    query.resultType
  .ofIssues
    { method := signature.name, sql := query.sql, kind := query.kind, style := query.boundStyle
      bindings, mapping := resolution.mapping, cardinality := resolution.cardinality }
    (query.check signature.name bindings ++ resolution.issues)

/-- Plans a method, from its SQL if it has some and from its name otherwise. -/
def planMethod (context : Context) (signature : Signature) : Option NativeQuery → Outcome Plan
  | some query => planNative signature query
  | none => planDerived context signature

end QueryMethods
