/-
What a plan asks for.

A body is made from a plan and from what was declared: the parameters of the method, the
fields of the entity, the type of the result.  No plan asks for more.  Its bindings name
parameters of the method, and fields that the entity lists or has as its key; it reads a
list or an option only where the declared type is one; and it reads rows by some rule
unless the method answers with nothing.
-/
import QueryMethods.Proofs.Planning.Derived
import QueryMethods.Proofs.Sql.Slots
import QueryMethods.Proofs.Syntax.Elements

namespace QueryMethods

/-- Whether an entity has a field, among those it lists or as its key. -/
def Entity.Knows (e : Entity) (field : String) : Prop := field ∈ e.fields ∨ e.key = some field

/-- A shape has what is read of it: elements for a list or an option, and a rule for the rows
that are read. -/
structure Shape.Allows (shape : Shape) (cardinality : Cardinality) (row : RowRule) : Prop where
  elements : cardinality = .list ∨ cardinality = .optional → shape.hasElements = true
  rows : cardinality ≠ .void → row ≠ .nothing

/-- A plan asks for nothing that its method and the entity lack. -/
structure Plan.Scoped (plan : Plan) (context : Context) (signature : Signature) : Prop where
  parameters : ∀ b ∈ plan.bindings, ∃ p ∈ signature.parameters, p.name = b.parameter
  fields : ∀ b ∈ plan.bindings, ∀ field, b.source = .field field →
    ∃ entity, context.entity = some entity ∧ entity.Knows field
  result : signature.returns.Allows plan.cardinality plan.mapping.row

/-! ### Bindings -/

theorem exists_parameter_of_mem_bindParameters {parameters : List Parameter} {b : Binding}
    (h : b ∈ bindParameters parameters) :
    b.source = .argument ∧ ∃ p ∈ parameters, p.name = b.parameter := by
  rw [bindParameters] at h
  obtain ⟨⟨p, i⟩, hmem, rfl⟩ := List.mem_map.mp h
  exact ⟨rfl, p, List.fst_mem_of_mem_zipIdx hmem, rfl⟩

theorem exists_slot_of_mem_bindFields {parameter : String} {slots : List Slot} {b : Binding}
    (h : b ∈ bindFields parameter slots) :
    b.parameter = parameter ∧ ∃ slot ∈ slots, b.source = .field slot.fieldName := by
  rw [bindFields] at h
  obtain ⟨⟨slot, i⟩, hmem, rfl⟩ := List.mem_map.mp h
  exact ⟨rfl, slot, List.fst_mem_of_mem_zipIdx hmem, rfl⟩

/-- The fields of a stored entity are bound from the first parameter. -/
theorem bindEntity_eq_ok {method : String} {template : Template} {parameters : List Parameter}
    {bindings : List Binding} {issues : List Issue}
    (h : bindEntity method template parameters = .ok (bindings, issues)) :
    ∃ p ∈ parameters, bindings = bindFields p.name template.slots := by
  match parameters with
  | [] =>
      rw [bindEntity] at h
      simp at h
  | [p] =>
      rw [bindEntity] at h
      simp only [Except.ok.injEq, Prod.mk.injEq] at h
      exact ⟨p, List.mem_cons_self, h.1.symm⟩
  | p :: q :: rest =>
      rw [bindEntity] at h
      · simp only [Except.ok.injEq, Prod.mk.injEq] at h
        exact ⟨p, List.mem_cons_self, h.1.symm⟩
      · simp

theorem Entity.knows_of_mem_slots {e : Entity} {naming : Naming} {t : Template}
    (ht : t = e.insertTemplate naming ∨ t = e.updateTemplate naming) :
    ∀ slot ∈ t.slots, e.Knows slot.fieldName := by
  intro slot hslot
  rcases ht with rfl | rfl
  · obtain ⟨f, hf, rfl⟩ := List.mem_map.mp hslot
    exact Or.inl hf
  · rcases List.mem_append.mp hslot with hset | hkey
    · obtain ⟨f, hf, rfl⟩ := List.mem_map.mp hset
      exact Or.inl ((List.mem_filter.mp hf).1)
    · obtain ⟨f, hf, rfl⟩ := List.mem_map.mp hkey
      exact Or.inr (Option.mem_toList.mp hf)

/-! ### Results -/

namespace Shape

theorem elementRule_ne_nothing {element : Shape} {row : RowRule}
    (h : element.elementRule = some row) : row ≠ .nothing := by
  rintro rfl
  cases element with
  | map key value =>
      rw [elementRule] at h
      · split at h
        · simp at h
        · simp at h
      · simp
      · simp
  | _ => simp [elementRule, isTextMap] at h

theorem allows_scalar (shape : Shape) (kind : ScalarKind) :
    shape.Allows (scalarCardinality kind) (.scalar kind) := by
  refine ⟨?_, fun _ => by simp⟩
  cases kind <;> simp [scalarCardinality]

theorem allows_single (shape : Shape) {row : RowRule} (h : row ≠ .nothing) :
    shape.Allows .single row :=
  ⟨by simp, fun _ => h⟩

theorem allows_void (shape : Shape) : shape.Allows .void .nothing :=
  ⟨by simp, fun h => absurd rfl h⟩

theorem allows_elements {shape : Shape} (hshape : shape.hasElements = true)
    (cardinality : Cardinality) {row : RowRule} (hrow : row ≠ .nothing) :
    shape.Allows cardinality row :=
  ⟨fun _ => hshape, fun _ => hrow⟩

theorem allows_choice {shape : Shape} {c : MappingChoice} (h : shape.choice = some c) :
    shape.Allows c.cardinality c.row := by
  cases shape with
  | unit =>
      rw [← Option.some.inj h]
      exact allows_void _
  | scalar kind name =>
      rw [← Option.some.inj h]
      exact allows_scalar _ kind
  | sequence element =>
      obtain ⟨row, hrow, rfl⟩ := Option.map_eq_some_iff.mp h
      exact allows_elements rfl _ (elementRule_ne_nothing hrow)
  | optional element =>
      obtain ⟨row, hrow, rfl⟩ := Option.map_eq_some_iff.mp h
      exact allows_elements rfl _ (elementRule_ne_nothing hrow)
  | named path =>
      rw [← Option.some.inj h]
      exact allows_single _ (by simp)
  | map key value => simp [choice] at h
  | other text => simp [choice] at h

theorem allows_renamedChoice (shape : Shape) :
    shape.Allows shape.renamedChoice.cardinality shape.renamedChoice.row := by
  cases shape with
  | unit => exact allows_void _
  | scalar kind name => exact allows_scalar _ kind
  | sequence element => exact allows_elements rfl _ (by simp [renamedChoice])
  | optional element => exact allows_elements rfl _ (by simp [renamedChoice])
  | named path => exact allows_single _ (by simp [renamedChoice])
  | map key value => exact allows_single _ (by simp [renamedChoice])
  | other text => exact allows_single _ (by simp [renamedChoice])

end Shape

/-- However rows are mapped, the declared shape has what is read. -/
theorem allows_resolveMapping (method : String) (shape : Shape) (strategy : MappingStrategy)
    (columns : List (String × String)) (via : Option Shape) :
    shape.Allows (resolveMapping method shape strategy columns via).cardinality
      (resolveMapping method shape strategy columns via).mapping.row := by
  rw [resolveMapping]
  by_cases hrenames : strategy.renames = true
  · rw [if_pos hrenames]
    exact shape.allows_renamedChoice
  · rw [if_neg hrenames]
    cases hchoice : shape.choice with
    | none => exact Shape.allows_single _ (by simp)
    | some c => exact Shape.allows_choice hchoice

/-! ### Plans -/

theorem planNative_scoped (context : Context) {signature : Signature} {query : NativeQuery}
    {plan : Plan} (h : (planNative signature query).value? = some plan) :
    plan.Scoped context signature := by
  rw [planNative, Outcome.value?_ofIssues] at h
  obtain rfl := Option.some.inj h
  refine ⟨?_, ?_, allows_resolveMapping signature.name _ _ _ _⟩
  · intro b hb
    exact (exists_parameter_of_mem_bindParameters hb).2
  · intro b hb field hfield
    rw [(exists_parameter_of_mem_bindParameters hb).1] at hfield
    simp at hfield

/-- The bindings of a derived plan: its parameters for conditions, and fields of its first
parameter for an entity that is stored. -/
theorem DerivedPlan.bindings_cases {context : Context} {signature : Signature} {plan : Plan}
    {entity : Entity} {template : Template} {bindings : List Binding} {unbound : List Issue}
    (h : DerivedPlan context signature plan entity template bindings unbound) :
    bindings = bindParameters signature.parameters ∨
      ∃ p ∈ signature.parameters, bindings = bindFields p.name template.slots ∧
        ∀ slot ∈ template.slots, entity.Knows slot.fieldName := by
  have hbind := h.bind_eq
  rcases Entity.template_cases h.template_eq with
    ⟨hop, -⟩ | ⟨hop, -⟩ | ⟨hop, ht⟩ | ⟨hop, ht⟩
  · rw [bindTemplate] at hbind
    · exact Or.inl (Prod.mk.inj (Except.ok.inj hbind)).1.symm
    · intro hsave
      rw [hsave] at hop
      simp at hop
    · intro hupdate
      rw [hupdate] at hop
      simp at hop
  · rw [hop] at hbind
    exact Or.inl (Prod.mk.inj (Except.ok.inj hbind)).1.symm
  · rw [hop] at hbind
    obtain ⟨p, hp, hbindings⟩ := bindEntity_eq_ok hbind
    exact Or.inr ⟨p, hp, hbindings, Entity.knows_of_mem_slots (Or.inl ht)⟩
  · rw [hop] at hbind
    obtain ⟨p, hp, hbindings⟩ := bindEntity_eq_ok hbind
    exact Or.inr ⟨p, hp, hbindings, Entity.knows_of_mem_slots (Or.inr ht)⟩

theorem planDerived_scoped {context : Context} {signature : Signature} {plan : Plan}
    (h : (planDerived context signature).value? = some plan) : plan.Scoped context signature := by
  obtain ⟨entity, template, bindings, unbound, hplan⟩ := planDerived_cases h
  obtain rfl := hplan.plan_eq
  rcases hplan.bindings_cases with rfl | ⟨p, hp, rfl, hslots⟩
  · refine ⟨?_, ?_, allows_resolveMapping signature.name _ _ _ _⟩
    · intro b hb
      exact (exists_parameter_of_mem_bindParameters hb).2
    · intro b hb field hfield
      rw [(exists_parameter_of_mem_bindParameters hb).1] at hfield
      simp at hfield
  · refine ⟨?_, ?_, allows_resolveMapping signature.name _ _ _ _⟩
    · intro b hb
      exact ⟨p, hp, (exists_slot_of_mem_bindFields hb).1.symm⟩
    · intro b hb field hfield
      obtain ⟨-, slot, hslot, hsource⟩ := exists_slot_of_mem_bindFields hb
      rw [hsource] at hfield
      rw [← BindingSource.field.inj hfield]
      exact ⟨entity, hplan.entity_eq, hslots slot hslot⟩

/-- **No plan asks for more than its method and the entity have.** -/
theorem planMethod_scoped {context : Context} {signature : Signature}
    {query : Option NativeQuery} {plan : Plan}
    (h : (planMethod context signature query).value? = some plan) :
    plan.Scoped context signature := by
  cases query with
  | none => exact planDerived_scoped h
  | some query => exact planNative_scoped context h

end QueryMethods
