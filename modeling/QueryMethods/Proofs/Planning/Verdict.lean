/-
What becomes of a method that is planned from its name.

The planning gives up in several places, and the first that applies counts: a method with a body
is left alone, one without a convention is unsupported, one that cannot store its entity keeps
its body.  Every other method has a plan, and the issues that come with it depend on three
things only: the fields of the conditions, the number of parameters, and the declared type.

`planDerived_outcome` runs through the places once and says what is the case in each.  The count
that the parameters have to meet is the one thing that is computed elsewhere, from the slots of
the statement; `length_whereSlots` says that it is the number of markers in the conditions.
-/
import QueryMethods.Proofs.Planning.Agreement
import QueryMethods.Proofs.Planning.Derived
import QueryMethods.Proofs.Planning.Storing

namespace QueryMethods

/-! ### The reasons -/

/-- No convention applies: the name begins with no known operation, there is no entity, or only
methods with hand-written SQL are generated. -/
def Unconventional (context : Context) (signature : Signature) : Prop :=
  (MethodName.ofText signature.name).operation = .unknown ∨ context.entity = none ∨
    context.nativeOnly = true

/-- The name of a method without a body says something of an entity. -/
structure Conventional (context : Context) (entity : Entity) (signature : Signature) : Prop where
  hasBody_eq : signature.hasBody = false
  entity_eq : context.entity = some entity
  operation_ne : (MethodName.ofText signature.name).operation ≠ .unknown
  nativeOnly_eq : context.nativeOnly = false

/-- The operations that store an entity. -/
def Operation.Stores (operation : Operation) : Prop := operation = .save ∨ operation = .update

/-- An entity is to be stored and cannot be: it has no fields, or none that an update could set,
or no parameter holds it. -/
def CannotStore (entity : Entity) (signature : Signature) : Prop :=
  (MethodName.ofText signature.name).operation.Stores ∧
    (entity.fields = [] ∨
      ((MethodName.ofText signature.name).operation = .update ∧
        ∀ f ∈ entity.fields, entity.key = some f) ∨
      signature.parameters = [])

/-- How many parameters a method needs: the entity that it stores, or one for each marker of its
conditions. -/
def MethodName.needed (name : MethodName) : Nat :=
  match name.operation with
  | .save | .update => 1
  | _ => (name.conditions.flatMap (fun c => c.comparison.operands.toList)).count '?'

/-- What is said of a number of parameters that is not the one that is needed. -/
def countIssues (signature : Signature) (needed : Nat) : List Issue :=
  if signature.parameters.length = needed then []
  else [.parameterCount signature.name needed signature.parameters.length]

/-- What is said of a method with a plan: each condition whose field is not declared, in order,
then a wrong number of parameters, then a type that no rule maps. -/
def planIssues (entity : Entity) (signature : Signature) : List Issue :=
  let name := MethodName.ofText signature.name
  (name.conditions.filter (fun c => c.field ∉ entity.fields)).map
      (fun c => .unknownField signature.name c.field) ++
    countIssues signature name.needed ++
    (if signature.returns.choice.isSome then []
      else [.ambiguousMapping signature.name signature.returns.spelling])

/-! ### The issues of a plan -/

theorem checkFields_eq (method : String) (entity : Entity) (name : MethodName) :
    checkFields method entity name =
      (name.conditions.filter (fun c => c.field ∉ entity.fields)).map
        (fun c => .unknownField method c.field) := by
  rw [checkFields, MethodName.fields, List.filter_map, List.map_map]
  refine congrArg _ (List.filter_congr (fun c _ => ?_))
  simp [Entity.has]

theorem issues_autoMapping (signature : Signature) :
    (autoMapping signature).issues =
      if signature.returns.choice.isSome then []
      else [.ambiguousMapping signature.name signature.returns.spelling] := rfl

/-- Conditions have as many slots as markers. -/
theorem length_whereSlots (conditions : List Condition) :
    (Entity.whereSlots conditions).length =
      (conditions.flatMap (fun c => c.comparison.operands.toList)).count '?' := by
  have hnumbered : (Entity.whereSlots conditions).length =
      ((conditions.zipIdx.map Prod.fst).map (fun c => c.comparison.arity)).sum := by
    simp only [Entity.whereSlots, List.length_flatMap, List.length_replicate, List.map_map]
    rfl
  have hmarkers : List.count '?' ∘ (fun c : Condition => c.comparison.operands.toList) =
      fun c => c.comparison.arity := funext (fun c => Comparison.count_operands c.comparison)
  rw [hnumbered, List.zipIdx_map_fst, List.count_flatMap, hmarkers]

theorem bindConditions_eq (signature : Signature) (template : Template) :
    bindConditions signature.name template signature.parameters =
      (bindParameters signature.parameters, countIssues signature template.slots.length) := by
  have hcount : (bindParameters signature.parameters).length = signature.parameters.length := by
    simp [bindParameters]
  rw [bindConditions, checkCount, countIssues, hcount]
  simp only [eq_comm]

theorem issues_bindEntity {signature : Signature} (template : Template)
    (hparameters : signature.parameters ≠ []) :
    ∃ bindings, bindEntity signature.name template signature.parameters =
      .ok (bindings, countIssues signature 1) := by
  obtain ⟨entity, others, hsplit⟩ := List.exists_cons_of_ne_nil hparameters
  rw [countIssues, hsplit, bindEntity_cons]
  simp

theorem bindTemplate_of_stores {signature : Signature} {operation : Operation}
    (h : operation.Stores) (template : Template) :
    bindTemplate signature operation template =
      bindEntity signature.name template signature.parameters := by
  rcases h with rfl | rfl
  · rfl
  · rfl

/-- An operation of a name either stores an entity or filters rows. -/
theorem mem_filteringOperations {operation : Operation} (hop : operation ≠ .unknown)
    (h : ¬operation.Stores) : operation ∈ filteringOperations := by
  cases operation with
  | save => exact absurd (Or.inl rfl) h
  | update => exact absurd (Or.inr rfl) h
  | unknown => exact absurd rfl hop
  | _ => decide

namespace MethodName

variable {name : MethodName}

theorem needed_of_stores (h : name.operation.Stores) : name.needed = 1 := by
  rw [needed]
  rcases h with h | h
  · rw [h]
  · rw [h]

theorem needed_of_not_stores (h : ¬name.operation.Stores) :
    name.needed = (name.conditions.flatMap (fun c => c.comparison.operands.toList)).count '?' := by
  rw [needed]
  cases hop : name.operation with
  | save => exact absurd (Or.inl hop) h
  | update => exact absurd (Or.inr hop) h
  | _ => rfl

end MethodName

/-! ### Statements of names -/

/-- A name that filters rows has a statement, with a slot for each marker of its conditions. -/
theorem exists_template_of_not_stores (entity : Entity) (naming : Naming) {name : MethodName}
    (hop : name.operation ≠ .unknown) (hstores : ¬name.operation.Stores) :
    ∃ template, entity.template naming name = .ok template ∧
      template.slots.length = name.needed := by
  rw [MethodName.needed_of_not_stores hstores, ← length_whereSlots, Entity.template]
  cases hname : name.operation with
  | save => exact absurd (Or.inl hname) hstores
  | update => exact absurd (Or.inr hname) hstores
  | unknown => exact absurd hname hop
  | _ => exact ⟨_, rfl, rfl⟩

/-- A name that stores an entity has a statement exactly if something can be stored. -/
theorem exists_template_iff_of_stores (entity : Entity) (naming : Naming) {name : MethodName}
    (hstores : name.operation.Stores) :
    (∃ template, entity.template naming name = .ok template) ↔
      ¬(entity.fields = [] ∨
        (name.operation = .update ∧ ∀ f ∈ entity.fields, entity.key = some f)) := by
  rcases hstores with hop | hop
  · rw [Entity.template_of_save hop, hop]
    by_cases hfields : entity.fields = []
    · simp [hfields]
    · simp [hfields]
  · rw [Entity.template_of_update hop, hop]
    by_cases hfields : entity.fields = []
    · simp [hfields]
    · by_cases hall : ∀ f ∈ entity.fields, entity.key = some f
      · rw [if_neg hfields, if_pos hall]
        exact iff_of_false (by simp) (not_not_intro (Or.inr ⟨rfl, hall⟩))
      · rw [if_neg hfields, if_neg hall]
        exact iff_of_true ⟨_, rfl⟩ (by simp [hfields, hall])

/-! ### Planning from an entity -/

section

variable {context : Context} {entity : Entity} {signature : Signature}

/-- A statement whose values are bound gives a plan, and the issues are those of the method. -/
theorem planFromEntity_of_bound {template : Template} {bindings : List Binding}
    (htemplate :
      entity.template context.naming (MethodName.ofText signature.name) = .ok template)
    (hbind : bindTemplate signature (MethodName.ofText signature.name).operation template =
      .ok (bindings, countIssues signature (MethodName.ofText signature.name).needed)) :
    ∃ plan, planFromEntity context entity signature (MethodName.ofText signature.name) =
      .ofIssues plan (planIssues entity signature) := by
  refine ⟨template.plan signature bindings (autoMapping signature), ?_⟩
  rw [planFromEntity, htemplate]
  simp only [hbind]
  rw [planIssues, checkFields_eq, issues_autoMapping]

theorem planFromEntity_of_canStore (context : Context)
    (hop : (MethodName.ofText signature.name).operation ≠ .unknown)
    (hstore : ¬CannotStore entity signature) :
    ∃ plan, planFromEntity context entity signature (MethodName.ofText signature.name) =
      .ofIssues plan (planIssues entity signature) := by
  by_cases hstores : (MethodName.ofText signature.name).operation.Stores
  · simp only [CannotStore, hstores, true_and, ← or_assoc, not_or] at hstore
    obtain ⟨hfields, hparameters⟩ := hstore
    obtain ⟨template, htemplate⟩ :=
      (exists_template_iff_of_stores entity context.naming hstores).mpr
        (not_or.mpr hfields)
    obtain ⟨bindings, hbind⟩ := issues_bindEntity template hparameters
    rw [← bindTemplate_of_stores hstores, ← MethodName.needed_of_stores hstores] at hbind
    exact planFromEntity_of_bound htemplate hbind
  · obtain ⟨template, htemplate, hslots⟩ :=
      exists_template_of_not_stores entity context.naming hop hstores
    have hbind : bindTemplate signature (MethodName.ofText signature.name).operation template =
        .ok (bindParameters signature.parameters,
          countIssues signature (MethodName.ofText signature.name).needed) := by
      rw [bindTemplate_of_filtering (mem_filteringOperations hop hstores), bindConditions_eq, hslots]
    exact planFromEntity_of_bound htemplate hbind

theorem planFromEntity_of_cannotStore (context : Context) (hstore : CannotStore entity signature) :
    ∃ issues, planFromEntity context entity signature (MethodName.ofText signature.name) =
      .kept signature.name issues := by
  obtain ⟨hstores, hreason⟩ := hstore
  rw [planFromEntity]
  cases htemplate : entity.template context.naming (MethodName.ofText signature.name) with
  | error e => exact ⟨_, rfl⟩
  | ok template =>
      -- There is something to store, so it is the parameter that is missing.
      have hcan :=
        (exists_template_iff_of_stores entity context.naming hstores).mp ⟨template, htemplate⟩
      rw [not_or] at hcan
      have hparameters : signature.parameters = [] := by
        rcases hreason with hfields | hkey | hparameters
        · exact absurd hfields hcan.1
        · exact absurd hkey hcan.2
        · exact hparameters
      simp only [bindTemplate_of_stores hstores, hparameters, bindEntity]
      exact ⟨_, rfl⟩

/-! ### Planning from a name -/

theorem planDerived_of_hasBody (hbody : signature.hasBody = true) :
    planDerived context signature = .skipped signature.name := by
  rw [planDerived, if_pos hbody]

theorem planDerived_of_unconventional (hbody : signature.hasBody = false)
    (h : Unconventional context signature) :
    planDerived context signature = .noConvention signature.name := by
  rw [planDerived, hbody]
  cases hentity : context.entity with
  | none => rfl
  | some entity =>
      rw [Unconventional, hentity] at h
      simp only [reduceCtorEq, false_or] at h
      simp only [Bool.false_eq_true, if_false]
      rw [if_pos h]

theorem planDerived_of_conventional (h : Conventional context entity signature) :
    planDerived context signature =
      planFromEntity context entity signature (MethodName.ofText signature.name) := by
  rw [planDerived, h.hasBody_eq, h.entity_eq]
  simp [h.operation_ne, h.nativeOnly_eq]

theorem conventional_of_not (hbody : signature.hasBody = false)
    (h : ¬Unconventional context signature) :
    ∃ entity, Conventional context entity signature := by
  rw [Unconventional, not_or, not_or, Bool.not_eq_true] at h
  obtain ⟨hop, hentity, hnative⟩ := h
  obtain ⟨entity, hentity⟩ := Option.ne_none_iff_exists'.mp hentity
  exact ⟨entity, hbody, hentity, hop, hnative⟩

end

/-- Everything that can become of a method, and the case in which it does. -/
theorem planDerived_outcome (context : Context) (signature : Signature) :
    (signature.hasBody = true ∧ planDerived context signature = .skipped signature.name) ∨
    (signature.hasBody = false ∧ Unconventional context signature ∧
      planDerived context signature = .noConvention signature.name) ∨
    ∃ entity, Conventional context entity signature ∧
      ((CannotStore entity signature ∧
          ∃ issues, planDerived context signature = .kept signature.name issues) ∨
        (¬CannotStore entity signature ∧
          ∃ plan, planDerived context signature =
            .ofIssues plan (planIssues entity signature))) := by
  cases hbody : signature.hasBody with
  | true => exact Or.inl ⟨rfl, planDerived_of_hasBody hbody⟩
  | false =>
      by_cases hnone : Unconventional context signature
      · exact Or.inr (Or.inl ⟨rfl, hnone, planDerived_of_unconventional hbody hnone⟩)
      · obtain ⟨entity, hentity⟩ := conventional_of_not hbody hnone
        refine Or.inr (Or.inr ⟨entity, hentity, ?_⟩)
        rw [planDerived_of_conventional hentity]
        by_cases hstore : CannotStore entity signature
        · exact Or.inl ⟨hstore, planFromEntity_of_cannotStore context hstore⟩
        · exact Or.inr ⟨hstore, planFromEntity_of_canStore context hentity.operation_ne hstore⟩

/-! ### One case for each outcome -/

section

variable {context : Context} {signature : Signature}

theorem planDerived_eq_skipped_iff :
    (∃ m, planDerived context signature = .skipped m) ↔ signature.hasBody = true := by
  constructor
  · rintro ⟨m, h⟩
    rcases planDerived_outcome context signature with ⟨hbody, -⟩ | ⟨-, -, hplan⟩ |
      ⟨entity, -, ⟨-, _, hplan⟩ | ⟨-, plan, hplan⟩⟩
    · exact hbody
    · exact nomatch hplan.symm.trans h
    · exact nomatch hplan.symm.trans h
    · rw [hplan, Outcome.ofIssues_eq_ite] at h
      split at h <;> cases h
  · exact fun hbody => ⟨_, planDerived_of_hasBody hbody⟩

theorem planDerived_eq_unsupported_iff :
    (∃ m issues body, planDerived context signature = .unsupported m issues body) ↔
      signature.hasBody = false ∧ Unconventional context signature := by
  constructor
  · rintro ⟨m, issues, body, h⟩
    rcases planDerived_outcome context signature with ⟨-, hplan⟩ | ⟨hbody, hnone, -⟩ |
      ⟨entity, -, ⟨-, _, hplan⟩ | ⟨-, plan, hplan⟩⟩
    · exact nomatch hplan.symm.trans h
    · exact ⟨hbody, hnone⟩
    · exact nomatch hplan.symm.trans h
    · rw [hplan, Outcome.ofIssues_eq_ite] at h
      split at h <;> cases h
  · exact fun ⟨hbody, hnone⟩ => ⟨_, _, _, planDerived_of_unconventional hbody hnone⟩

theorem planDerived_eq_kept_iff :
    (∃ m issues, planDerived context signature = .kept m issues) ↔
      ∃ entity, Conventional context entity signature ∧ CannotStore entity signature := by
  constructor
  · rintro ⟨m, issues, h⟩
    rcases planDerived_outcome context signature with ⟨-, hplan⟩ | ⟨-, -, hplan⟩ |
      ⟨entity, hentity, ⟨hstore, -⟩ | ⟨-, plan, hplan⟩⟩
    · exact nomatch hplan.symm.trans h
    · exact nomatch hplan.symm.trans h
    · exact ⟨entity, hentity, hstore⟩
    · rw [hplan, Outcome.ofIssues_eq_ite] at h
      split at h <;> cases h
  · rintro ⟨entity, hentity, hstore⟩
    rw [planDerived_of_conventional hentity]
    obtain ⟨issues, hkept⟩ := planFromEntity_of_cannotStore context hstore
    exact ⟨_, issues, hkept⟩

end

/-- **What becomes of a method is determined by its body, its name, its parameters, its type and
the entity.**  A method with a plan comes with exactly the issues of `planIssues`, in their
order, and it is clean exactly if there are none. -/
theorem planDerived_verdict (context : Context) (signature : Signature) :
    ((∃ m, planDerived context signature = .skipped m) ↔ signature.hasBody = true) ∧
    ((∃ m issues body, planDerived context signature = .unsupported m issues body) ↔
      signature.hasBody = false ∧ Unconventional context signature) ∧
    ((∃ m issues, planDerived context signature = .kept m issues) ↔
      ∃ entity, Conventional context entity signature ∧ CannotStore entity signature) ∧
    ∀ entity, Conventional context entity signature → ¬CannotStore entity signature →
      ∃ plan, planDerived context signature =
        if planIssues entity signature = [] then .clean plan
        else .warned plan (planIssues entity signature) := by
  refine ⟨planDerived_eq_skipped_iff, planDerived_eq_unsupported_iff, planDerived_eq_kept_iff, ?_⟩
  intro entity hentity hstore
  obtain ⟨plan, hplan⟩ :=
    planFromEntity_of_canStore context hentity.operation_ne hstore
  refine ⟨plan, ?_⟩
  rw [planDerived_of_conventional hentity, hplan, Outcome.ofIssues_eq_ite]

/-- A field that is not declared is reported for each of its conditions, before the parameters
that are missing and the type that is unclear. -/
theorem planDerived_verdict_nickname :
    let entity : Entity := .ofFields "users" ["id", "age"]
    let context : Context := ⟨some entity, .snake, false, false⟩
    let signature : Signature :=
      ⟨"findByNicknameOrAgeBetweenAndNicknameIsNull", [], .other "dyn Any", false⟩
    Conventional context entity signature ∧ ¬CannotStore entity signature ∧
      planIssues entity signature =
        [.unknownField signature.name "nickname", .unknownField signature.name "nickname",
          .parameterCount signature.name 3 0, .ambiguousMapping signature.name "dyn Any"] ∧
      ∃ plan, planDerived context signature = .warned plan (planIssues entity signature) := by
  intro entity context signature
  have hentity : Conventional context entity signature := ⟨rfl, rfl, by decide, rfl⟩
  have hstore : ¬CannotStore entity signature := by
    rintro ⟨hsave | hupdate, -⟩
    · exact absurd hsave (by decide)
    · exact absurd hupdate (by decide)
  have hissues : planIssues entity signature =
      [.unknownField signature.name "nickname", .unknownField signature.name "nickname",
        .parameterCount signature.name 3 0, .ambiguousMapping signature.name "dyn Any"] := by
    decide +kernel
  obtain ⟨-, -, -, hplanned⟩ := planDerived_verdict context signature
  obtain ⟨plan, hplan⟩ := hplanned entity hentity hstore
  rw [if_neg (by rw [hissues]; exact List.cons_ne_nil _ _)] at hplan
  exact ⟨hentity, hstore, hissues, plan, hplan⟩

end QueryMethods
