/-
The ways of an existence method, one after the other.

A method that asks whether a row exists is emitted in the first of three ways that an
emitter does not fail in: with a query that answers a boolean, with a query that counts,
and with the literal `false`.  Each way is a row of requests like that of any other plan,
and each starts from the plan as it was, with the SQL of the way and nothing of the ways
before it.  What a failed way leaves behind is an issue, and the state of the emitter.

`FirstAnswered` describes the exchanges of such a sequence of attempts together with the
failures and the body that come of it; whatever the emitter does, the generation of an
existence method is such a sequence.
-/
import QueryMethods.Proofs.Generation.Protocol

namespace QueryMethods

variable {σ ε ω : Type}

/-! ### Attempts -/

/-- A way that is tried, and the requests in a row that it makes. -/
structure Attempt (ω : Type) where
  way : ExistsWay
  request : StepRequest ω
  later : List (ω → StepRequest ω)

/-- The attempt to emit a plan in one of the ways. -/
def ExistsWay.attempt (plan : Plan) (way : ExistsWay) : Attempt ω where
  way
  request := match way with
    | booleanCase | countComparison => plan.fetchRequest
    | literalFalse => .constant false
  later := match way with
    | booleanCase => plan.laterRequests (plan.castAs false)
    | countComparison => plan.laterRequests (plan.castAs true)
    | literalFalse => [fun value => .finish value plan]

theorem emitWay_eq_chain (E : Emitter σ ε ω) (plan : Plan) (way : ExistsWay) :
    emitWay E plan way = E.chain (way.attempt plan).request (way.attempt plan).later := by
  cases way with
  | booleanCase => exact emitPlan_eq_chain E plan false
  | countComparison => exact emitPlan_eq_chain E plan true
  | literalFalse => rfl

/-- The exchanges of attempts up to the first that is answered with a body, the failures of
those before it, and that body, if there is one. -/
inductive FirstAnswered :
    List (Attempt ω) → List (Exchange ε ω) → List (ExistsWay × ε) → Option ω → Prop
  /-- No attempt is left. -/
  | exhausted : FirstAnswered [] [] [] none
  /-- An attempt emits a body, and no other is made. -/
  | emits {attempt attempts log body} : Answered attempt.request attempt.later log (.ok body) →
      FirstAnswered (attempt :: attempts) log [] (some body)
  /-- An attempt fails, and the next one is made. -/
  | fails {attempt attempts log log' e failures body} :
      Answered attempt.request attempt.later log (.error e) →
      FirstAnswered attempts log' failures body →
      FirstAnswered (attempt :: attempts) (log ++ log') ((attempt.way, e) :: failures) body

/-- The failures are those of the first attempts, in order, and of all of them where no body
was emitted. -/
theorem FirstAnswered.failures_eq {attempts : List (Attempt ω)} {log : List (Exchange ε ω)}
    {failures : List (ExistsWay × ε)} {body : Option ω}
    (h : FirstAnswered attempts log failures body) :
    failures.map (·.1) = (attempts.map (·.way)).take failures.length ∧
      (body = none ↔ failures.length = attempts.length) := by
  induction h with
  | exhausted => simp
  | emits hanswered => simp
  | fails hanswered hrest ih =>
      obtain ⟨hways, hbody⟩ := ih
      refine ⟨?_, ?_⟩
      · simp [hways]
      · rw [hbody, List.length_cons, List.length_cons, Nat.add_right_cancel_iff]

/-- What is reported of a way that failed. -/
def Emitter.wayIssue (E : Emitter σ ε ω) (method : String) (failure : ExistsWay × ε) : Issue :=
  .emissionFailed method ("exists " ++ failure.1.name) (E.describe failure.2)

/-- **The ways of a plan are tried in turn, whatever the emitter does.** -/
theorem exists_firstAnswered (context : Context) (E : Emitter σ ε ω) (plan : Plan)
    (ways : List ExistsWay) : ∀ s : σ, ∃ failures body s' log,
      E.Records (fun F => emitExists context F plan ways) s
        (body, failures.map (E.wayIssue plan.method)) s' log ∧
      FirstAnswered (ways.map (fun way => way.attempt (existsPlan context plan way))) log failures
        body := by
  induction ways with
  | nil =>
      intro s
      exact ⟨[], none, s, [], .pure rfl rfl, .exhausted⟩
  | cons way ways ih =>
      intro s
      have hway := E.exists_answered (way.attempt (existsPlan context plan way)).later
        (way.attempt (existsPlan context plan way)).request s
      obtain ⟨result, s₁, log₁, hrecords, hanswered⟩ := hway
      simp only [← emitWay_eq_chain] at hrecords
      cases result with
      | ok body =>
          exact ⟨[], some body, s₁, log₁, hrecords.bind_quiet (.pure rfl rfl), .emits hanswered⟩
      | error e =>
          obtain ⟨failures, body, s₂, log₂, hrest, hfirst⟩ := ih s₁
          exact ⟨(way, e) :: failures, body, s₂, log₁ ++ log₂,
            hrecords.bind (hrest.bind_quiet (.pure rfl rfl)), .fails hanswered hfirst⟩

/-! ### Existence methods -/

/-- The queries of an existence method differ in what they select and in nothing else. -/
theorem existsTemplate_sql (entity : Entity) (naming : Naming) (name : MethodName) :
    ∃ first second,
      entity.existsTemplate naming name .booleanCase = .ok first ∧
      entity.existsTemplate naming name .countComparison = .ok second ∧
      first.sql = "SELECT CASE WHEN COUNT(*) > 0 THEN TRUE ELSE FALSE END" ++
        (" FROM " ++ entity.table ++ entity.whereClause naming name.conditions) ∧
      second.sql = "SELECT COUNT(*)" ++
        (" FROM " ++ entity.table ++ entity.whereClause naming name.conditions) ∧
      first.slots = second.slots := by
  refine ⟨_, _, rfl, rfl, ?_, ?_, rfl⟩
  · simp only [Entity.selectTemplate, ← String.append_assoc]
    rfl
  · simp only [Entity.selectTemplate, ← String.append_assoc]
    rfl

/-- What becomes of a method that was planned: it gets the body, if there is one, or keeps its
own. -/
def Outcome.ofBody? {α : Type} (method : String) (issues : List Issue) : Option α → Outcome α
  | some body => .ofIssues body issues
  | none => .kept method issues

theorem Outcome.ofBody?_eq_kept_iff {α : Type} {method : String} {issues : List Issue}
    {body : Option α} :
    (∃ method' issues', Outcome.ofBody? method issues body = .kept method' issues') ↔
      body = none := by
  cases body with
  | none => exact ⟨fun _ => rfl, fun _ => ⟨method, issues, rfl⟩⟩
  | some body =>
      refine ⟨fun ⟨_, _, hkept⟩ => ?_, fun hnone => absurd hnone (Option.some_ne_none body)⟩
      rw [ofBody?, ofIssues] at hkept
      split at hkept
      · simp at hkept
      · simp at hkept

/-- A plan is emitted for its body, and what its emission reports follows the issues it has. -/
theorem emitPlanned_eq_ofBody? (context : Context) (E : Emitter σ ε ω) (signature : Signature)
    (operation : Option Operation) (plan : Plan) (issues : List Issue) :
    emitPlanned context E signature operation plan issues = (do
      let emitted ← emitMethod context E operation plan
      pure (.ofBody? signature.name (issues ++ emitted.2) emitted.1)) := by
  refine congrArg (emitMethod context E operation plan >>= ·) (funext ?_)
  rintro ⟨body, failures⟩
  cases body with
  | none => rfl
  | some body => rfl

/-- What an existence method is generated as, once its ways are tried. -/
theorem generateMethod_of_exists {context : Context} {signature : Signature} {plan : Plan}
    (hop : (MethodName.ofText signature.name).operation = .exist)
    (hplan : (planMethod context signature none).value? = some plan) (E : Emitter σ ε ω) :
    generateMethod context E signature none = (do
      let tried ← emitExists context E plan ExistsWay.chain
      pure (.ofBody? signature.name ((planMethod context signature none).issues ++ tried.2)
        tried.1)) := by
  rw [generateMethod_of_plan (planMethod_eq_ofIssues hplan), emitPlanned_eq_ofBody?,
    emittedOperation, hop]
  rfl

/-- **An existence method is emitted in the first of its ways that the emitter does not fail
in.**

The ways are tried in turn, each from the plan as it was planned: with the SQL of the way, of
which the two queries share the clause behind what they select and the slots, or without SQL
and bindings for the literal.  The outcome has the body of the first way that is emitted, and
its issues are those of the planning and one for each way before it; it is kept exactly where
every way failed. -/
theorem exists_fallback_chain {context : Context} {signature : Signature} {plan : Plan}
    (hop : (MethodName.ofText signature.name).operation = .exist)
    (hplan : (planDerived context signature).value? = some plan) (E : Emitter σ ε ω) (s : σ) :
    ∃ entity first second,
      context.entity = some entity ∧
      entity.existsTemplate context.naming (MethodName.ofText signature.name) .booleanCase =
        .ok first ∧
      entity.existsTemplate context.naming (MethodName.ofText signature.name) .countComparison =
        .ok second ∧
      (∃ rest, first.sql = "SELECT CASE WHEN COUNT(*) > 0 THEN TRUE ELSE FALSE END" ++ rest ∧
        second.sql = "SELECT COUNT(*)" ++ rest) ∧
      first.slots = second.slots ∧
      ∃ failures body outcome s' log,
        E.Records (fun F => generateMethod context F signature none) s outcome s' log ∧
        FirstAnswered [ExistsWay.booleanCase.attempt { plan with sql := first.sql },
          ExistsWay.countComparison.attempt { plan with sql := second.sql },
          ExistsWay.literalFalse.attempt { plan with sql := "", bindings := [] }]
          log failures body ∧
        failures.map (·.1) = ExistsWay.chain.take failures.length ∧
        (body = none ↔ failures.length = 3) ∧
        outcome = .ofBody? signature.name ((planDerived context signature).issues ++
          failures.map (E.wayIssue signature.name)) body ∧
        ((∃ method issues, outcome = .kept method issues) ↔ failures.length = 3) := by
  obtain ⟨entity, template, bindings, unbound, hderived⟩ := planDerived_cases hplan
  obtain ⟨first, second, hfirst, hsecond, hfirstSql, hsecondSql, hslots⟩ :=
    existsTemplate_sql entity context.naming (MethodName.ofText signature.name)
  have hmethod : plan.method = signature.name := by
    rw [hderived.plan_eq]
    rfl
  obtain ⟨failures, body, s', log, hrecords, hanswered⟩ :=
    exists_firstAnswered context E plan ExistsWay.chain s
  rw [hmethod] at hrecords
  have hone : existsPlan context plan .booleanCase = { plan with sql := first.sql } :=
    existsPlan_eq_of_template hderived.entity_eq (by rw [hmethod]; exact hfirst)
  have htwo : existsPlan context plan .countComparison = { plan with sql := second.sql } :=
    existsPlan_eq_of_template hderived.entity_eq (by rw [hmethod]; exact hsecond)
  have hthree : existsPlan context plan .literalFalse = { plan with sql := "", bindings := [] } :=
    rfl
  simp only [ExistsWay.chain, List.map_cons, List.map_nil, hone, htwo, hthree] at hanswered
  obtain ⟨hways, hbody⟩ := hanswered.failures_eq
  refine ⟨entity, first, second, hderived.entity_eq, hfirst, hsecond, ⟨_, hfirstSql, hsecondSql⟩,
    hslots, failures, body, ?_⟩
  simp only [generateMethod_of_exists hop hplan]
  refine ⟨_, s', log, hrecords.bind_quiet (.pure rfl rfl), hanswered, hways, hbody, rfl, ?_⟩
  rw [Outcome.ofBody?_eq_kept_iff]
  exact hbody

/-- An emitter that fails to cast, and to ask with `CASE`, is left with the literal. -/
theorem exists_fallback_chain_exists_by_name :
    let context : Context := ⟨some (.ofFields "users" ["id", "name"]), .snake, false, false⟩
    let signature : Signature :=
      ⟨"existsByName", [⟨"name", none, .scalar .text "String"⟩], .scalar .bool "bool", false⟩
    let E := Trace.emitter ⟨["cast"], ["CASE"]⟩
    (MethodName.ofText signature.name).operation = .exist ∧
      (planDerived context signature).value?.isSome = true ∧
      ∃ (failures : List (ExistsWay × String)) (outcome : Outcome String),
        ((generateMethod context E signature none).run []).1 = outcome ∧
        failures.map (·.1) = [ExistsWay.booleanCase, .countComparison] ∧
        outcome.value? = some "ok(false)" ∧
        outcome.issues = failures.map (E.wayIssue "existsByName") := by
  intro context signature E
  have hop : (MethodName.ofText signature.name).operation = .exist := by decide +kernel
  have hsome : (planDerived context signature).value?.isSome = true := by decide +kernel
  obtain ⟨plan, hplan⟩ := Option.isSome_iff_exists.mp hsome
  obtain ⟨entity, first, second, -, -, -, -, -, failures, body, outcome, s', log, hrecords, -,
    hways, -, houtcome, -⟩ := exists_fallback_chain hop hplan E []
  have hrun : ((generateMethod context E signature none).run []).1 = outcome :=
    congrArg Prod.fst hrecords.plain
  have hvalue : outcome.value? = some "ok(false)" := by
    rw [← hrun]
    decide +kernel
  have hcount : outcome.issues.length = 2 := by
    rw [← hrun]
    decide +kernel
  have hissues : (planDerived context signature).issues = [] := by decide +kernel
  rw [hissues, List.nil_append] at houtcome
  cases body with
  | none =>
      rw [houtcome] at hvalue
      simp [Outcome.ofBody?, Outcome.value?] at hvalue
  | some body =>
      have hfailures : outcome.issues = failures.map (E.wayIssue "existsByName") := by
        rw [houtcome]
        exact Outcome.issues_ofIssues
      have hlength : failures.length = 2 := by
        rw [hfailures, List.length_map] at hcount
        exact hcount
      rw [hlength] at hways
      exact ⟨hop, hsome, failures, outcome, hrun, hways, hvalue, hfailures⟩

end QueryMethods
