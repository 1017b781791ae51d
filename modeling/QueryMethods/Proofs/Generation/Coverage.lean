/-
What the code of a plan needs of its source.

The emitter that makes code fails in a step only where its source lacks something that
the plan asks for: a parameter or a field to bind, a type of elements, or a rule for rows.
`Covers` says that nothing is lacking.  A plan that is covered is emitted without a
failing step, by the emitter of the source and by every emitter that follows it, and the
body asks the query of the plan.  That goes for a whole generation as well, also for
existence methods: the first of their ways asks exactly what was planned.
-/
import QueryMethods.Code.Emitter
import QueryMethods.Proofs.Attempts
import QueryMethods.Proofs.Generation.Noting
import QueryMethods.Proofs.Planning.Derived

namespace QueryMethods

/-! ### The query of a body -/

namespace Code

/-- The query that code makes. -/
def query? : Code → Option Query
  | query q => some q
  | bound c | readValue _ c | isPositive c => c.query?
  | everyRow _ c | possibleRow _ c | oneRow _ c => c.query?
  | answer c | done c => c.query?
  | literal _ | placeholder .. => none

theorem query?_cast (okType : Syntax.Ty) (plan : Plan) (fetched : Code) (c : ScalarCast) :
    (Code.cast okType plan fetched c).query? = fetched.query? := by
  have hvalue : (Code.cast.value plan fetched).query? = fetched.query? := by
    rw [Code.cast.value]
    split
    · rfl
    · rfl
  rcases c with kind | -
  · exact hvalue
  · exact hvalue

theorem query?_body (value : Code) (cardinality : Cardinality) :
    (Code.body value cardinality).query? = value.query? := by
  cases cardinality <;> rfl

/-- Rows that are read are mapped, and the code still makes its query. -/
theorem exists_mapped {cardinality : Cardinality} (hscalar : cardinality.isScalar = false)
    (hvoid : cardinality ≠ .void) (reading : RowReading) (fetched : Code) :
    ∃ c, Code.mapped reading fetched cardinality = .ok c ∧ c.query? = fetched.query? := by
  cases cardinality with
  | single => exact ⟨_, rfl, rfl⟩
  | optional => exact ⟨_, rfl, rfl⟩
  | list => exact ⟨_, rfl, rfl⟩
  | scalar => exact absurd hscalar (by decide)
  | boolean => exact absurd hscalar (by decide)
  | void => exact absurd rfl hvoid

end Code

/-! ### Sources that have what a plan asks for -/

namespace CodeSource

/-- A source has everything that the code of a plan needs. -/
structure Covers (s : CodeSource) (plan : Plan) : Prop where
  operands : ∀ b ∈ plan.bindings, ∃ o, s.operand b = .ok o
  element : ∃ type, s.element plan.cardinality = .ok type
  rows : plan.cardinality ≠ .void → plan.mapping.row ≠ .nothing

/-- Code makes a query of a plan. -/
def Asks (s : CodeSource) (plan : Plan) (body : Code) : Prop :=
  ∃ call q, s.query call plan = .ok q ∧ body.query? = some q

variable {s : CodeSource} {call : Call} {plan : Plan} {q : Query}

theorem namedOperand_eq_ok {b : Binding} {o : String × Operand}
    (h : s.namedOperand b = .ok o) : o.1 = b.name ∧ .ok o.2 = s.operand b := by
  obtain ⟨operand, hoperand, h⟩ := exists_of_bind_eq_ok h
  rw [← Except.ok.inj h]
  exact ⟨rfl, hoperand.symm⟩

/-- The query of a plan has its SQL and its style, and an operand under the name of each
binding. -/
theorem query_eq_ok (h : s.query call plan = .ok q) :
    q.sql = plan.sql ∧ q.style = plan.style ∧
      q.operands.map (·.1) = plan.bindings.map (·.name) := by
  obtain ⟨operands, hoperands, h⟩ := exists_of_bind_eq_ok h
  rw [← Except.ok.inj h]
  have hnames := map_eq_map_of_forall₂ (mapM_eq_ok_iff.mp hoperands)
    (fun _ _ ho => (namedOperand_eq_ok ho).1)
  exact ⟨rfl, rfl, hnames⟩

/-- The operands of a query are those of the bindings, in order. -/
theorem operands_of_query_eq_ok (h : s.query call plan = .ok q) :
    q.operands.map (fun o => .ok o.2) = plan.bindings.map s.operand := by
  obtain ⟨operands, hoperands, h⟩ := exists_of_bind_eq_ok h
  rw [← Except.ok.inj h]
  exact map_eq_map_of_forall₂ (mapM_eq_ok_iff.mp hoperands)
    (fun _ _ ho => (namedOperand_eq_ok ho).2)

theorem Asks.sql {body : Code} (h : s.Asks plan body) :
    body.query?.map (·.sql) = some plan.sql := by
  obtain ⟨call, q, hq, hbody⟩ := h
  rw [hbody]
  exact congrArg some (query_eq_ok hq).1

theorem Covers.exists_query (h : s.Covers plan) (call : Call) :
    ∃ q, s.query call plan = .ok q := by
  have hnamed : ∀ b ∈ plan.bindings, ∃ o, s.namedOperand b = .ok o := by
    intro b hb
    obtain ⟨o, ho⟩ := h.operands b hb
    refine ⟨(b.name, o), ?_⟩
    rw [namedOperand, ho]
    rfl
  obtain ⟨operands, hall⟩ := exists_forall₂_iff.mpr hnamed
  have hoperands := mapM_eq_ok_iff.mpr hall
  refine ⟨⟨s.candidate.label, s.executor, call, plan.sql, plan.style, operands⟩, ?_⟩
  rw [query, hoperands]
  rfl

theorem exists_rowForm (s : CodeSource) {m : Mapping} (h : m.row ≠ .nothing) :
    ∃ form, s.rowForm m = some form := by
  rw [rowForm]
  split
  · rename_i hrow
    exact absurd hrow h
  · exact ⟨_, rfl⟩
  · exact ⟨_, rfl⟩
  · exact ⟨_, rfl⟩

theorem Covers.exists_rowReading (h : s.Covers plan) (hvoid : plan.cardinality ≠ .void) :
    ∃ reading, s.rowReading plan = .ok reading := by
  obtain ⟨target, htarget⟩ := h.element
  obtain ⟨form, hform⟩ := s.exists_rowForm (h.rows hvoid)
  refine ⟨⟨if plan.mapping.row = .renamed then plan.mapping.columns else [], form, target⟩, ?_⟩
  simp only [rowReading, htarget, hform]
  rfl

/-! ### The steps that have what they need -/

theorem select_eq_pure (h : s.query plan.cardinality.call plan = .ok q) :
    s.emitter.select plan = pure (.query q) := by
  show ExceptT.mk (pure ((s.query plan.cardinality.call plan).map Code.query)) = _
  rw [h]
  rfl

theorem update_eq_pure (h : s.query .execute plan = .ok q) :
    s.emitter.update plan = pure (.query q) := by
  show ExceptT.mk (pure ((s.query .execute plan).map Code.query)) = _
  rw [h]
  rfl

theorem mapping_eq_pure {reading : RowReading} {fetched c : Code}
    (hreading : s.rowReading plan = .ok reading)
    (hmapped : Code.mapped reading fetched plan.cardinality = .ok c) :
    s.emitter.mapping fetched plan = pure c := by
  show ExceptT.mk (pure (s.rowReading plan >>=
    fun reading => Code.mapped reading fetched plan.cardinality)) = _
  rw [hreading]
  show ExceptT.mk (pure (Code.mapped reading fetched plan.cardinality)) = _
  rw [hmapped]
  rfl

/-! ### What is covered is emitted -/

/-- The value of a covered plan, whatever is fetched and however it is read. -/
theorem Covers.exists_value (h : s.Covers plan) (counts : Bool) :
    ∃ value : Code, s.Asks plan value ∧
      ∀ {τ : Type} {F : Emitter τ CodeError Code}, F.Follows s.emitter →
        emitValue F plan counts = pure value := by
  by_cases hexecutes : plan.executes = true
  · obtain ⟨q, hq⟩ := h.exists_query .execute
    by_cases hscalar : plan.cardinality.isScalar = true
    · refine ⟨.cast s.candidate.okType plan (.query q) (scalarCast plan true), ?_, ?_⟩
      · exact ⟨.execute, q, hq, Code.query?_cast ..⟩
      · intro τ F hF
        rw [emitValue, if_pos hexecutes, hF.update (update_eq_pure hq), pure_bind, if_pos hscalar]
        exact hF.cast rfl
    · refine ⟨.query q, ⟨.execute, q, hq, rfl⟩, ?_⟩
      intro τ F hF
      rw [emitValue, if_pos hexecutes, hF.update (update_eq_pure hq), pure_bind, if_neg hscalar]
  · obtain ⟨q, hq⟩ := h.exists_query plan.cardinality.call
    by_cases hscalar : plan.cardinality.isScalar = true
    · refine ⟨.cast s.candidate.okType plan (.query q) (scalarCast plan counts), ?_, ?_⟩
      · exact ⟨plan.cardinality.call, q, hq, Code.query?_cast ..⟩
      · intro τ F hF
        rw [emitValue, if_neg hexecutes, hF.select (select_eq_pure hq), pure_bind, if_pos hscalar]
        exact hF.cast rfl
    · have hvoid : plan.cardinality ≠ .void := by
        intro hvoid
        apply hexecutes
        rw [Plan.executes, hvoid]
        rfl
      obtain ⟨reading, hreading⟩ := h.exists_rowReading hvoid
      obtain ⟨value, hvalue, hquery⟩ :=
        Code.exists_mapped (Bool.eq_false_iff.mpr hscalar) hvoid reading (.query q)
      refine ⟨value, ⟨plan.cardinality.call, q, hq, hquery⟩, ?_⟩
      · intro τ F hF
        rw [emitValue, if_neg hexecutes, hF.select (select_eq_pure hq), pure_bind, if_neg hscalar]
        exact hF.mapping (mapping_eq_pure hreading hvalue)

/-- **A covered plan is emitted without a failing step, with its own query.** -/
theorem Covers.exists_body (h : s.Covers plan) (counts : Bool) :
    ∃ body : Code, s.Asks plan body ∧
      ∀ {τ : Type} {F : Emitter τ CodeError Code}, F.Follows s.emitter →
        emitPlan F plan counts = pure body := by
  obtain ⟨value, ⟨call, q, hq, hquery⟩, hvalue⟩ := h.exists_value counts
  refine ⟨.body value plan.cardinality, ?_, ?_⟩
  · exact ⟨call, q, hq, (Code.query?_body ..).trans hquery⟩
  · intro τ F hF
    rw [emitPlan, hvalue hF, pure_bind]
    exact hF.finish rfl

/-- An existence method is done with its first way where that asks the query of the plan. -/
theorem Covers.exists_emitMethod (h : s.Covers plan) (context : Context)
    (operation : Option Operation)
    (hexist : operation = some .exist → existsPlan context plan .booleanCase = plan) :
    ∃ body : Code, s.Asks plan body ∧
      ∀ {τ : Type} {F : Emitter τ CodeError Code}, F.Follows s.emitter →
        emitMethod context F operation plan = pure (some body, []) := by
  by_cases hop : operation = some .exist
  · obtain ⟨body, hquery, hbody⟩ := h.exists_body false
    refine ⟨body, hquery, ?_⟩
    intro τ F hF
    rw [emitMethod, if_pos hop, ExistsWay.chain, emitExists, hexist hop, emitWay, hbody hF]
    rfl
  · obtain ⟨body, hquery, hbody⟩ := h.exists_body (operation == some .count)
    refine ⟨body, hquery, ?_⟩
    intro τ F hF
    rw [emitMethod, if_neg hop, hbody hF]
    rfl

end CodeSource

/-! ### Generation from plans that are covered -/

section

variable {context : Context} {signature : Signature} {query : Option NativeQuery} {plan : Plan}
variable {τ ε ω : Type}

theorem planMethod_eq_ofIssues (h : (planMethod context signature query).value? = some plan) :
    planMethod context signature query =
      .ofIssues plan (planMethod context signature query).issues := by
  cases query with
  | none =>
      obtain ⟨entity, template, bindings, unbound, hplan⟩ := planDerived_cases h
      rw [planMethod, hplan.outcome_eq, Outcome.issues_ofIssues]
  | some query =>
      rw [planMethod, planNative] at h ⊢
      rw [Outcome.value?_ofIssues] at h
      rw [Outcome.issues_ofIssues, Option.some.inj h]

/-- The operation that decides how a plan is emitted; a hand-written query has none. -/
def emittedOperation (signature : Signature) : Option NativeQuery → Option Operation
  | some _ => none
  | none => some (MethodName.ofText signature.name).operation

theorem generateMethod_of_plan {issues : List Issue} {F : Emitter τ ε ω}
    (h : planMethod context signature query = .ofIssues plan issues) :
    generateMethod context F signature query =
      emitPlanned context F signature (emittedOperation signature query) plan issues := by
  unfold generateMethod
  rw [h, Outcome.ofIssues]
  cases query with
  | none => cases issues <;> rfl
  | some query => cases issues <;> rfl

theorem generateMethod_of_unsupported {method : String} {issues : List Issue} {body : Option Plan}
    (F : Emitter τ ε ω)
    (h : planMethod context signature query = .unsupported method issues body) :
    generateMethod context F signature query = emitPlaceholder F signature method issues := by
  unfold generateMethod
  rw [h]

theorem generateMethod_of_kept {method : String} {issues : List Issue} (F : Emitter τ ε ω)
    (h : planMethod context signature query = .kept method issues) :
    generateMethod context F signature query = pure (.kept method issues) := by
  unfold generateMethod
  rw [h]

theorem generateMethod_of_skipped {method : String} (F : Emitter τ ε ω)
    (h : planMethod context signature query = .skipped method) :
    generateMethod context F signature query = pure (.skipped method) := by
  unfold generateMethod
  rw [h]

theorem existsPlan_eq_of_template {entity : Entity} {template : Template} {way : ExistsWay}
    (hentity : context.entity = some entity)
    (ht : entity.existsTemplate context.naming (MethodName.ofText plan.method) way =
      .ok template) :
    existsPlan context plan way = { plan with sql := template.sql } := by
  cases way with
  | booleanCase => simp only [existsPlan, hentity, ht]
  | countComparison => simp only [existsPlan, hentity, ht]
  | literalFalse => simp [Entity.existsTemplate, ExistsWay.projection] at ht

/-- The first way of an existence method asks what was planned. -/
theorem existsPlan_booleanCase
    (hop : emittedOperation signature query = some .exist)
    (h : (planMethod context signature query).value? = some plan) :
    ∃ entity template, context.entity = some entity ∧
      entity.existsTemplate context.naming (MethodName.ofText signature.name) .booleanCase =
        .ok template ∧
      plan.sql = template.sql ∧ existsPlan context plan .booleanCase = plan := by
  cases query with
  | some query => simp [emittedOperation] at hop
  | none =>
      have hop := Option.some.inj hop
      obtain ⟨entity, template, bindings, unbound, hplan⟩ := planDerived_cases h
      have htemplate := hplan.template_eq
      rw [Entity.template, hop] at htemplate
      obtain rfl := hplan.plan_eq
      exact ⟨entity, template, hplan.entity_eq, htemplate, rfl,
        existsPlan_eq_of_template hplan.entity_eq htemplate⟩

/-- The generation of a method does nothing but answer with an outcome that reports what its
planning reports. -/
structure CodeSource.Generates (s : CodeSource) (context : Context) (signature : Signature)
    (query : Option NativeQuery) (outcome : Outcome Code) : Prop where
  issues : outcome.issues = (planMethod context signature query).issues
  runs : ∀ {τ : Type} {F : Emitter τ CodeError Code}, F.Follows s.emitter →
    generateMethod context F signature query = pure outcome

/-- A method whose plan is covered gets a body for the query of the plan. -/
theorem CodeSource.Covers.exists_outcome {s : CodeSource} (h : s.Covers plan)
    (hplan : (planMethod context signature query).value? = some plan) :
    ∃ body : Code, s.Asks plan body ∧
      s.Generates context signature query
        (.ofIssues body (planMethod context signature query).issues) := by
  obtain ⟨body, hquery, hbody⟩ := h.exists_emitMethod context (emittedOperation signature query)
    (fun hop => by
      obtain ⟨-, -, -, -, -, hexists⟩ := existsPlan_booleanCase hop hplan
      exact hexists)
  refine ⟨body, hquery, Outcome.issues_ofIssues, ?_⟩
  intro τ F hF
  rw [generateMethod_of_plan (planMethod_eq_ofIssues hplan), emitPlanned, hbody hF, pure_bind]
  show pure (Outcome.ofIssues body (_ ++ [])) = _
  rw [List.append_nil]

/-- A method without a plan gets a placeholder, or nothing at all. -/
theorem CodeSource.exists_outcome_of_no_plan (s : CodeSource)
    (hplan : (planMethod context signature query).value? = none) :
    ∃ outcome, s.Generates context signature query outcome := by
  cases hplanned : planMethod context signature query with
  | clean plan =>
      rw [hplanned] at hplan
      simp [Outcome.value?] at hplan
  | warned plan issues =>
      rw [hplanned] at hplan
      simp [Outcome.value?] at hplan
  | unsupported method issues body =>
      refine ⟨.unsupported method issues (some (.placeholder s.candidate.label s.candidate.okType
        (resolveMapping method signature.returns .auto [] none).cardinality)), ?_, ?_⟩
      · rw [hplanned]
        rfl
      · intro τ F hF
        rw [generateMethod_of_unsupported F hplanned, emitPlaceholder, hF.placeholder rfl]
        rfl
  | kept method issues =>
      refine ⟨.kept method issues, by rw [hplanned]; rfl, ?_⟩
      intro τ F hF
      exact generateMethod_of_kept F hplanned
  | skipped method =>
      refine ⟨.skipped method, by rw [hplanned]; rfl, ?_⟩
      intro τ F hF
      exact generateMethod_of_skipped F hplanned

end

end QueryMethods
