/-
What a plan that is derived from a name is made of.

`planDerived` gives up in several places and collects issues on the way.  A plan that
comes out of it always comes from one template, whose values are bound, and from the
mapping of the declared type; `planDerived_cases` says so once, with everything that went
into the plan, so that no other proof has to open the planning again.  Of a method that gets
no plan, `planMethod_of_no_plan` says why.
-/
import QueryMethods.Planning

namespace QueryMethods

/-! ### Outcomes made of a value and its issues -/

namespace Outcome

variable {α : Type} {value : α} {issues : List Issue}

theorem ofIssues_eq_ite :
    ofIssues value issues = if issues = [] then clean value else warned value issues := by
  simp only [ofIssues, List.isEmpty_iff]

@[simp] theorem value?_ofIssues : (ofIssues value issues).value? = some value := by
  rw [ofIssues]
  split
  · rfl
  · rfl

@[simp] theorem issues_ofIssues : (ofIssues value issues).issues = issues := by
  rw [ofIssues]
  split
  · rename_i h
    exact (List.isEmpty_iff.mp h).symm
  · rfl

end Outcome

/-! ### Plans -/

/-- The mapping of a method without settings of its own. -/
abbrev autoMapping (signature : Signature) : Resolution :=
  resolveMapping signature.name signature.returns .auto [] none

/-- What a derived plan is made of. -/
structure DerivedPlan (context : Context) (signature : Signature) (plan : Plan) (entity : Entity)
    (template : Template) (bindings : List Binding) (unbound : List Issue) : Prop where
  entity_eq : context.entity = some entity
  template_eq : entity.template context.naming (MethodName.ofText signature.name) = .ok template
  bind_eq : bindTemplate signature (MethodName.ofText signature.name).operation template =
    .ok (bindings, unbound)
  plan_eq : plan = template.plan signature bindings (autoMapping signature)
  outcome_eq : planDerived context signature =
    .ofIssues plan (checkFields signature.name entity (MethodName.ofText signature.name) ++
      unbound ++ (autoMapping signature).issues)

/-- Planning from an entity makes a plan of a template with its bindings. -/
theorem planFromEntity_cases {context : Context} {entity : Entity} {signature : Signature}
    {name : MethodName} {plan : Plan}
    (h : (planFromEntity context entity signature name).value? = some plan) :
    ∃ template bindings unbound,
      entity.template context.naming name = .ok template ∧
      bindTemplate signature name.operation template = .ok (bindings, unbound) ∧
      plan = template.plan signature bindings (autoMapping signature) ∧
      planFromEntity context entity signature name =
        .ofIssues plan (checkFields signature.name entity name ++ unbound ++
          (autoMapping signature).issues) := by
  rw [planFromEntity] at h ⊢
  cases ht : entity.template context.naming name with
  | error e =>
      rw [ht] at h
      simp [Outcome.value?] at h
  | ok template =>
      rw [ht] at h
      simp only at h ⊢
      cases hb : bindTemplate signature name.operation template with
      | error issue =>
          rw [hb] at h
          simp [Outcome.value?] at h
      | ok bound =>
          rw [hb] at h
          simp only [Outcome.value?_ofIssues, Option.some.injEq] at h
          exact ⟨template, bound.1, bound.2, rfl, hb, h.symm, by rw [← h]⟩

/-- Where a name gives a plan, there is an entity, and the plan is made from it. -/
theorem planDerived_eq_planFromEntity {context : Context} {signature : Signature} {plan : Plan}
    (h : (planDerived context signature).value? = some plan) :
    ∃ entity, context.entity = some entity ∧ planDerived context signature =
      planFromEntity context entity signature (MethodName.ofText signature.name) := by
  rw [planDerived] at h ⊢
  by_cases hbody : signature.hasBody = true
  · rw [if_pos hbody] at h
    simp [Outcome.value?] at h
  · rw [if_neg hbody] at h ⊢
    cases he : context.entity with
    | none =>
        rw [he] at h
        simp [Outcome.noConvention, Outcome.value?] at h
    | some entity =>
        rw [he] at h
        simp only at h ⊢
        by_cases hop : (MethodName.ofText signature.name).operation = .unknown ∨
            context.nativeOnly = true
        · rw [if_pos hop] at h
          simp [Outcome.noConvention, Outcome.value?] at h
        · exact ⟨entity, rfl, if_neg hop⟩

/-- **A derived plan comes from one template, its bindings, and the declared type.** -/
theorem planDerived_cases {context : Context} {signature : Signature} {plan : Plan}
    (h : (planDerived context signature).value? = some plan) :
    ∃ entity template bindings unbound,
      DerivedPlan context signature plan entity template bindings unbound := by
  obtain ⟨entity, hentity, hderived⟩ := planDerived_eq_planFromEntity h
  rw [hderived] at h
  obtain ⟨template, bindings, unbound, htemplate, hbind, hplan, houtcome⟩ :=
    planFromEntity_cases h
  exact ⟨entity, template, bindings, unbound, hentity, htemplate, hbind, hplan,
    hderived.trans houtcome⟩

/-! ### Methods without a plan -/

/-- Planning from an entity fails with an issue, if it does. -/
theorem planFromEntity_of_no_plan {context : Context} {entity : Entity} {signature : Signature}
    {name : MethodName} (h : (planFromEntity context entity signature name).value? = none) :
    ∃ issues, planFromEntity context entity signature name = .kept signature.name issues ∧
      issues ≠ [] := by
  rw [planFromEntity] at h ⊢
  cases ht : entity.template context.naming name with
  | error e => exact ⟨_, rfl, List.append_ne_nil_of_right_ne_nil _ (List.cons_ne_nil _ _)⟩
  | ok template =>
      rw [ht] at h
      simp only at h ⊢
      cases hb : bindTemplate signature name.operation template with
      | error issue => exact ⟨_, rfl, List.append_ne_nil_of_right_ne_nil _ (List.cons_ne_nil _ _)⟩
      | ok bound =>
          rw [hb] at h
          simp at h

/-- A method without a plan has no convention, or it fails with an issue, or it has a body. -/
theorem planMethod_of_no_plan {context : Context} {signature : Signature}
    {query : Option NativeQuery} (h : (planMethod context signature query).value? = none) :
    planMethod context signature query = .noConvention signature.name ∨
    (∃ issues, planMethod context signature query = .kept signature.name issues ∧ issues ≠ []) ∨
    (planMethod context signature query = .skipped signature.name ∧ signature.hasBody = true) := by
  cases query with
  | some query =>
      rw [planMethod, planNative] at h
      simp at h
  | none =>
      rw [planMethod, planDerived] at h ⊢
      by_cases hbody : signature.hasBody = true
      · rw [if_pos hbody]
        exact Or.inr (Or.inr ⟨rfl, hbody⟩)
      · rw [if_neg hbody] at h ⊢
        cases he : context.entity with
        | none => exact Or.inl rfl
        | some entity =>
            rw [he] at h
            simp only at h ⊢
            by_cases hop : (MethodName.ofText signature.name).operation = .unknown ∨
                context.nativeOnly = true
            · rw [if_pos hop]
              exact Or.inl rfl
            · rw [if_neg hop] at h ⊢
              exact Or.inr (Or.inl (planFromEntity_of_no_plan h))

end QueryMethods
