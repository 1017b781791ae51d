/-
The order in which an emitter is asked for its steps.

A body is made by a row of requests that the plan alone decides:

    nothing                     update, finish
    a scalar of a mutation      update, cast, finish
    any other scalar            select, cast, finish
    rows                        select, mapping, finish

`emitPlan_eq_chain` says that emitting a plan is that row, so that every emitter, whatever
it keeps and wherever it fails, is asked in this order and for nothing more.  A cast is
therefore given the number of changed rows exactly where the plan is one of a mutation,
which is all that the emitter of code looks at when it chooses a conversion.

Where there is no plan an emitter is asked for one placeholder, if the name of the method
is to blame, and otherwise for nothing.
-/
import QueryMethods.Emitter.Trace
import QueryMethods.Proofs.Generation.Coverage
import QueryMethods.Proofs.Generation.Requests
import QueryMethods.Proofs.Planning.Scope

namespace QueryMethods

variable {σ ε ω : Type}

namespace Plan

/-- The request that fetches what a plan asks for. -/
def fetchRequest (plan : Plan) : StepRequest ω :=
  match plan.cardinality with
  | .void => .update plan
  | .scalar | .boolean => if plan.kind.isMutation then .update plan else .select plan
  | .single | .optional | .list => .select plan

/-- The requests that make a body of what was fetched. -/
def laterRequests (plan : Plan) (cast : ScalarCast) : List (ω → StepRequest ω) :=
  match plan.cardinality with
  | .void => [fun value => .finish value plan]
  | .scalar | .boolean =>
    [fun fetched => .cast fetched cast plan, fun value => .finish value plan]
  | .single | .optional | .list =>
    [fun fetched => .mapping fetched plan, fun value => .finish value plan]

/-- The cast of a plan; what a mutation answers with is a count as well. -/
def castAs (plan : Plan) (counts : Bool) : ScalarCast :=
  scalarCast plan (plan.kind.isMutation || counts)

end Plan

/-- **A plan is emitted by its requests in a row.** -/
theorem emitPlan_eq_chain (E : Emitter σ ε ω) (plan : Plan) (counts : Bool) :
    emitPlan E plan counts =
      E.chain plan.fetchRequest (plan.laterRequests (plan.castAs counts)) := by
  cases hcardinality : plan.cardinality <;> cases hmutation : plan.kind.isMutation <;>
    simp [emitPlan, emitValue, Plan.executes, Plan.fetchRequest, Plan.laterRequests, Plan.castAs,
      Emitter.chain, Emitter.answer, Cardinality.isScalar, hcardinality, hmutation]

/-! ### What a cast is given -/

section

variable {plan : Plan} {counts : Bool}

/-- Only a boolean is made of a count by comparing it. -/
theorem cardinality_of_castAs (h : plan.castAs counts = .countToBool) :
    plan.cardinality = .boolean := by
  rw [Plan.castAs, scalarCast] at h
  split at h
  · rename_i hboolean
    exact hboolean.1
  · split at h <;> simp at h

theorem fetchRequest_eq_update_iff (hscalar : plan.cardinality.isScalar = true) :
    (plan.fetchRequest : StepRequest ω) = .update plan ↔ plan.kind.isMutation = true := by
  cases hcardinality : plan.cardinality <;>
    simp [hcardinality, Cardinality.isScalar] at hscalar <;>
    cases hmutation : plan.kind.isMutation <;>
    simp [Plan.fetchRequest, hcardinality, hmutation]

theorem fetchRequest_ne_cast (plan : Plan) (fetched : ω) (cast : ScalarCast) (plan' : Plan) :
    StepRequest.cast fetched cast plan' ≠ plan.fetchRequest := by
  rw [Plan.fetchRequest]
  split
  · simp
  · split <;> simp
  · split <;> simp
  · simp
  · simp
  · simp

theorem laterRequests_of_isScalar (hscalar : plan.cardinality.isScalar = true)
    (cast : ScalarCast) :
    (plan.laterRequests cast : List (ω → StepRequest ω)) =
      [fun fetched => .cast fetched cast plan, fun value => .finish value plan] := by
  cases hcardinality : plan.cardinality <;>
    simp [Plan.laterRequests, Cardinality.isScalar, hcardinality] at hscalar ⊢

theorem isScalar_of_mem_laterRequests {cast cast' : ScalarCast} {following : ω → StepRequest ω}
    (h : following ∈ plan.laterRequests cast) {out fetched : ω} {plan' : Plan}
    (hcast : StepRequest.cast fetched cast' plan' = following out) :
    plan.cardinality.isScalar = true := by
  cases hcardinality : plan.cardinality <;>
    simp only [Plan.laterRequests, hcardinality, List.mem_cons, List.not_mem_nil, or_false] at h
  case void => simp [h] at hcast
  case scalar => rfl
  case boolean => rfl
  all_goals rcases h with rfl | rfl <;> simp at hcast

/-- A cast that is asked for is the one of the plan, of what the first request fetched. -/
theorem Answered.cast_of_mem {cast cast' : ScalarCast} {log : List (Exchange ε ω)}
    {result : Except ε ω} (h : Answered plan.fetchRequest (plan.laterRequests cast) log result)
    {fetched : ω} {plan' : Plan} {answer : Except ε ω}
    (hmem : (StepRequest.cast fetched cast' plan', answer) ∈ log) :
    plan' = plan ∧ cast' = cast ∧ plan.cardinality.isScalar = true ∧
      (plan.fetchRequest, .ok fetched) ∈ log := by
  have hne := fetchRequest_ne_cast plan fetched cast' plan'
  have hscalar : plan.cardinality.isScalar = true := by
    rcases h.request_of_mem hmem with heq | ⟨following, hfollowing, out, hcast⟩
    · exact absurd heq hne
    · exact isScalar_of_mem_laterRequests hfollowing hcast
  rw [laterRequests_of_isScalar hscalar] at h
  obtain ⟨out, hfetched, hcast | ⟨other, hother, out', hfinish⟩⟩ := h.of_mem_cons hmem hne
  · obtain ⟨rfl, rfl, rfl⟩ := StepRequest.cast.inj hcast
    exact ⟨rfl, rfl, hscalar, hfetched⟩
  · rw [List.mem_singleton.mp hother] at hfinish
    simp at hfinish

/-- Rows are executed for their number by the first request alone, if at all. -/
theorem Answered.update_of_mem {cast : ScalarCast} {log : List (Exchange ε ω)}
    {result : Except ε ω} (h : Answered plan.fetchRequest (plan.laterRequests cast) log result)
    {plan' : Plan} {answer : Except ε ω} (hmem : (StepRequest.update plan', answer) ∈ log) :
    (plan.fetchRequest : StepRequest ω) = .update plan' := by
  rcases h.request_of_mem hmem with heq | ⟨following, hfollowing, out, hupdate⟩
  · exact heq.symm
  · cases hcardinality : plan.cardinality <;>
      simp only [Plan.laterRequests, hcardinality, List.mem_cons, List.not_mem_nil,
        or_false] at hfollowing
    case void => simp [hfollowing] at hupdate
    all_goals rcases hfollowing with rfl | rfl <;> simp at hupdate

end

/-! ### The protocol -/

/-- The code that reads a value as a cast asks: as the declared type, or as a count that is
compared with zero. -/
def Code.readFor (okType : Syntax.Ty) (value : Code) : ScalarCast → Code
  | .to _ => .readValue okType value
  | .countToBool => .isPositive (.readValue (.path (.ofName "i64")) value)

theorem Code.readFor_inj {okType : Syntax.Ty} {value value' : Code} {cast : ScalarCast} :
    readFor okType value cast = readFor okType value' cast ↔ value = value' := by
  rcases cast with kind | -
  · simp [readFor]
  · simp [readFor]

theorem Code.bound_ne_self (code : Code) : Code.bound code ≠ code := by
  intro h
  have hsize := congrArg sizeOf h
  simp at hsize

namespace CodeSource

variable {source : CodeSource} {code : Code} {cast : ScalarCast} {plan : Plan}

theorem cast_eq_pure (source : CodeSource) (code : Code) (cast : ScalarCast) (plan : Plan) :
    source.emitter.cast code cast plan = pure (.readFor source.candidate.okType
      (if plan.kind.isMutation then .bound code else code) cast) := by
  rcases cast with kind | -
  · rfl
  · rfl

theorem cast_eq_readFor_iff {value : Code} :
    source.emitter.cast code cast plan = pure (.readFor source.candidate.okType value cast) ↔
      (if plan.kind.isMutation then .bound code else code) = value := by
  rw [cast_eq_pure, ← Code.readFor_inj]
  constructor
  · intro h
    exact Except.ok.inj (congrArg (fun step => (step.run.run ()).1) h)
  · intro h
    rw [h]

/-- The emitter of code binds what it is given exactly where the plan is one of a mutation. -/
theorem cast_binds_iff :
    source.emitter.cast code cast plan =
      pure (.readFor source.candidate.okType (.bound code) cast) ↔
      plan.kind.isMutation = true := by
  rw [cast_eq_readFor_iff]
  cases plan.kind.isMutation with
  | true => exact iff_of_true rfl rfl
  | false => exact iff_of_false (fun h => code.bound_ne_self h.symm) Bool.false_ne_true

/-- Everywhere else it reads what it is given. -/
theorem cast_reads_iff :
    source.emitter.cast code cast plan = pure (.readFor source.candidate.okType code cast) ↔
      plan.kind.isMutation = false := by
  rw [cast_eq_readFor_iff]
  cases plan.kind.isMutation with
  | true => exact iff_of_false code.bound_ne_self Bool.true_eq_false.mp
  | false => exact iff_of_true rfl rfl

end CodeSource

/-- A placeholder is asked for once, whatever comes of it. -/
theorem Emitter.exists_placeholder (E : Emitter σ ε ω) (signature : Signature) (method : String)
    (issues : List Issue) (s : σ) : ∃ outcome s' answer,
      E.Records (fun F => emitPlaceholder F signature method issues) s outcome s'
        [(.placeholder method (resolveMapping method signature.returns .auto [] none).cardinality,
          answer)] := by
  have hasked := Records.answer E (.placeholder method
    (resolveMapping method signature.returns .auto [] none).cardinality) s
  generalize (E.answer _).run s = ran at hasked
  obtain ⟨answer, s'⟩ := ran
  cases answer with
  | ok body => exact ⟨_, _, _, hasked.bind (.pure rfl rfl)⟩
  | error e => exact ⟨_, _, _, hasked.bind (.pure rfl rfl)⟩

/-- **An emitter is asked for its steps in the order of the protocol.**

A plan is emitted by its requests in a row, whether it counts or not and wherever the emitter
fails; the rows that are mapped are read by some rule.  A cast is given what an update answered
exactly where the plan is one of a mutation; there alone the emitter of code binds it before it is
read, and everywhere else it reads what it is given.  Only a boolean is made by comparing a count.

Without a plan nothing is asked for, but for the placeholder of a method whose name says
nothing. -/
theorem emission_protocol (context : Context) (signature : Signature)
    (query : Option NativeQuery) (E : Emitter σ ε ω) (s : σ) :
    (∀ plan counts, (planMethod context signature query).value? = some plan →
      (plan.cardinality ≠ .void → plan.mapping.row ≠ .nothing) ∧
      ∃ result s' log,
        E.Records (fun F => (emitPlan F plan counts).run) s result s' log ∧
        Answered plan.fetchRequest (plan.laterRequests (plan.castAs counts)) log result ∧
        ∀ fetched cast plan' answer, (StepRequest.cast fetched cast plan', answer) ∈ log →
          plan' = plan ∧
          ((.update plan, .ok fetched) ∈ log ↔ plan.kind.isMutation = true) ∧
          (∀ (source : CodeSource) code,
            (source.emitter.cast code cast plan' =
                pure (.readFor source.candidate.okType (.bound code) cast) ↔
              (.update plan, .ok fetched) ∈ log) ∧
            (source.emitter.cast code cast plan' =
                pure (.readFor source.candidate.okType code cast) ↔
              (.update plan, .ok fetched) ∉ log)) ∧
          (cast = .countToBool → plan.cardinality = .boolean)) ∧
    (∀ method, planMethod context signature query = .skipped method →
      E.Records (fun F => generateMethod context F signature query) s (.skipped method) s []) ∧
    (∀ method issues, planMethod context signature query = .kept method issues →
      E.Records (fun F => generateMethod context F signature query) s (.kept method issues) s []) ∧
    (∀ method issues body, planMethod context signature query = .unsupported method issues body →
      ∃ outcome s' answer,
        E.Records (fun F => generateMethod context F signature query) s outcome s'
          [(.placeholder method (resolveMapping method signature.returns .auto [] none).cardinality,
            answer)]) := by
  refine ⟨?_, ?_, ?_, ?_⟩
  · intro plan counts hplan
    refine ⟨(planMethod_scoped hplan).result.rows, ?_⟩
    obtain ⟨result, s', log, hrecords, hanswered⟩ :=
      E.exists_answered (plan.laterRequests (plan.castAs counts)) plan.fetchRequest s
    refine ⟨result, s', log, ?_, hanswered, ?_⟩
    · simp only [emitPlan_eq_chain]
      exact hrecords
    · intro fetched cast plan' answer hmem
      obtain ⟨rfl, rfl, hscalar, hfetched⟩ := hanswered.cast_of_mem hmem
      have hupdate : (.update plan', .ok fetched) ∈ log ↔ plan'.kind.isMutation = true := by
        refine Iff.trans ⟨hanswered.update_of_mem, fun h => ?_⟩ (fetchRequest_eq_update_iff hscalar)
        rw [← h]
        exact hfetched
      refine ⟨rfl, hupdate, ?_, cardinality_of_castAs⟩
      intro source code
      refine ⟨CodeSource.cast_binds_iff.trans hupdate.symm, CodeSource.cast_reads_iff.trans ?_⟩
      rw [hupdate, Bool.not_eq_true]
  · intro method hplanned
    simp only [generateMethod_of_skipped _ hplanned]
    exact .pure rfl rfl
  · intro method issues hplanned
    simp only [generateMethod_of_kept _ hplanned]
    exact .pure rfl rfl
  · intro method issues body hplanned
    simp only [generateMethod_of_unsupported _ hplanned]
    exact E.exists_placeholder signature method issues s

/-- A boolean of a deletion is cast from what an update answered, and a cast that fails is the last
request. -/
theorem emission_protocol_delete_by_name :
    let context : Context := ⟨some (.ofFields "users" ["id", "name"]), .snake, false, false⟩
    let signature : Signature :=
      ⟨"deleteByName", [⟨"name", none, .scalar .text "String"⟩], .scalar .bool "bool", false⟩
    let plan : Plan :=
      { method := "deleteByName", sql := "DELETE FROM users WHERE name = ?", kind := .delete
        style := .positional, bindings := [⟨"name", "name", false, 0, .argument⟩]
        mapping := ⟨.auto, .scalar .bool "bool", [], .scalar .bool, none⟩, cardinality := .boolean }
    let E := Trace.emitter ⟨["cast"], []⟩
    (planMethod context signature none).value? = some plan ∧
      ∃ s' log,
        E.Records (fun F => (emitPlan F plan false).run) [] (.error "refused: cast") s' log ∧
        Answered (.update plan) [fun fetched => .cast fetched .countToBool plan,
          fun value => .finish value plan] log (.error "refused: cast") := by
  intro context signature plan E
  have hplan : (planMethod context signature none).value? = some plan := by decide +kernel
  obtain ⟨hplanned, -⟩ := emission_protocol context signature none E []
  obtain ⟨-, result, s', log, hrecords, hanswered, -⟩ := hplanned plan false hplan
  have hresult : result = .error "refused: cast" :=
    (congrArg Prod.fst hrecords.plain).symm.trans (by decide +kernel)
  rw [hresult] at hrecords hanswered
  exact ⟨hplan, s', log, hrecords, hanswered⟩

end QueryMethods
