/-
What the planning reports.

Every check of the planning reports issues of one kind, all about the method that is
planned.  Together they are the kinds that `FromPlanning` lists: the planning never
reports a failed stage but that of the statement itself.
-/
import QueryMethods.Proofs.Planning.Derived

namespace QueryMethods

/-- Whether an issue is about a field that is not declared. -/
def Issue.isUnknownField : Issue → Bool
  | .unknownField .. => true
  | _ => false

/-- An issue that the planning of a method can report. -/
def Issue.FromPlanning (method : String) : Issue → Prop
  | .unknownField m _ | .parameterCount m _ _ | .parameterName m _ => m = method
  | .unsupportedName m | .ambiguousMapping m _ => m = method
  | .emissionFailed m stage _ => m = method ∧ stage = "statement"
  | .notAsync _ | .unsupportedReturn _ _ => False

/-! ### The checks, each with its kind of issue -/

section

variable {method : String} {issue : Issue}

theorem exists_of_mem_checkFields {entity : Entity} {name : MethodName}
    (h : issue ∈ checkFields method entity name) : ∃ field, issue = .unknownField method field := by
  rw [checkFields] at h
  obtain ⟨field, -, rfl⟩ := List.mem_map.mp h
  exact ⟨field, rfl⟩

theorem exists_of_mem_checkNames {names : List String} {bindings : List Binding}
    (h : issue ∈ checkNames method names bindings) :
    ∃ name, issue = .parameterName method name := by
  rw [checkNames] at h
  obtain ⟨name, -, rfl⟩ := List.mem_map.mp h
  exact ⟨name, rfl⟩

theorem exists_of_mem_checkCount {markers : Nat} {bindings : List Binding}
    (h : issue ∈ checkCount method markers bindings) :
    ∃ expected found, issue = .parameterCount method expected found := by
  rw [checkCount] at h
  obtain ⟨-, hmem⟩ := List.mem_ite_nil_left.mp h
  exact ⟨markers, bindings.length, List.mem_singleton.mp hmem⟩

theorem exists_of_mem_issues_resolveMapping {shape : Shape} {strategy : MappingStrategy}
    {columns : List (String × String)} {via : Option Shape}
    (h : issue ∈ (resolveMapping method shape strategy columns via).issues) :
    ∃ target, issue = .ambiguousMapping method target := by
  simp only [resolveMapping] at h
  obtain ⟨-, hmem⟩ := List.mem_ite_nil_left.mp h
  exact ⟨shape.spelling, List.mem_singleton.mp hmem⟩

end

/-! ### The planning as a whole -/

section

variable {context : Context} {signature : Signature} {template : Template} {issue : Issue}

theorem fromPlanning_of_bindEntity_ok {parameters : List Parameter} {bindings : List Binding}
    {unbound : List Issue}
    (h : bindEntity signature.name template parameters = .ok (bindings, unbound))
    (hissue : issue ∈ unbound) : issue.FromPlanning signature.name := by
  match parameters with
  | [] => simp [bindEntity] at h
  | [p] =>
      simp only [bindEntity, Except.ok.injEq, Prod.mk.injEq] at h
      rw [← h.2] at hissue
      simp at hissue
  | p :: q :: rest =>
      simp only [bindEntity, Except.ok.injEq, Prod.mk.injEq] at h
      rw [← h.2] at hissue
      rw [List.mem_singleton.mp hissue]
      rfl

theorem fromPlanning_of_bindEntity_error {parameters : List Parameter}
    (h : bindEntity signature.name template parameters = .error issue) :
    issue.FromPlanning signature.name := by
  match parameters with
  | [] =>
      simp only [bindEntity, Except.error.injEq] at h
      rw [← h]
      rfl
  | [p] => simp [bindEntity] at h
  | p :: q :: rest => simp [bindEntity] at h

theorem fromPlanning_of_bindTemplate_ok {operation : Operation} {bindings : List Binding}
    {unbound : List Issue}
    (h : bindTemplate signature operation template = .ok (bindings, unbound))
    (hissue : issue ∈ unbound) : issue.FromPlanning signature.name := by
  rw [bindTemplate.eq_def] at h
  split at h
  · exact fromPlanning_of_bindEntity_ok h hissue
  · exact fromPlanning_of_bindEntity_ok h hissue
  · rw [← (Prod.mk.inj (Except.ok.inj h)).2] at hissue
    obtain ⟨expected, found, rfl⟩ := exists_of_mem_checkCount hissue
    rfl

theorem fromPlanning_of_bindTemplate_error {operation : Operation}
    (h : bindTemplate signature operation template = .error issue) :
    issue.FromPlanning signature.name := by
  rw [bindTemplate.eq_def] at h
  split at h
  · exact fromPlanning_of_bindEntity_error h
  · exact fromPlanning_of_bindEntity_error h
  · simp at h

theorem fromPlanning_of_planFromEntity {entity : Entity} {name : MethodName}
    (h : issue ∈ (planFromEntity context entity signature name).issues) :
    issue.FromPlanning signature.name := by
  rw [planFromEntity] at h
  split at h
  · rcases List.mem_append.mp h with h | h
    · obtain ⟨field, rfl⟩ := exists_of_mem_checkFields h
      rfl
    · rw [List.mem_singleton.mp h]
      exact ⟨rfl, rfl⟩
  · split at h
    · rename_i hbind
      rcases List.mem_append.mp h with h | h
      · obtain ⟨field, rfl⟩ := exists_of_mem_checkFields h
        rfl
      · rw [List.mem_singleton.mp h]
        exact fromPlanning_of_bindTemplate_error hbind
    · rename_i hbind
      rw [Outcome.issues_ofIssues] at h
      rcases List.mem_append.mp h with h | h
      · rcases List.mem_append.mp h with h | h
        · obtain ⟨field, rfl⟩ := exists_of_mem_checkFields h
          rfl
        · exact fromPlanning_of_bindTemplate_ok hbind h
      · obtain ⟨target, rfl⟩ := exists_of_mem_issues_resolveMapping h
        rfl

theorem fromPlanning_of_planDerived (h : issue ∈ (planDerived context signature).issues) :
    issue.FromPlanning signature.name := by
  have hnone : issue ∈ (Outcome.noConvention signature.name : Outcome Plan).issues →
      issue.FromPlanning signature.name := by
    intro hmem
    rw [List.mem_singleton.mp hmem]
    rfl
  rw [planDerived] at h
  split at h
  · simp [Outcome.issues] at h
  · split at h
    · exact hnone h
    · simp only at h
      split at h
      · exact hnone h
      · exact fromPlanning_of_planFromEntity h

theorem fromPlanning_of_planNative {query : NativeQuery}
    (h : issue ∈ (planNative signature query).issues) : issue.FromPlanning signature.name := by
  rw [planNative, Outcome.issues_ofIssues] at h
  rcases List.mem_append.mp h with h | h
  · rw [NativeQuery.check] at h
    split at h
    · split at h
      · obtain ⟨name, rfl⟩ := exists_of_mem_checkNames h
        rfl
      · obtain ⟨expected, found, rfl⟩ := exists_of_mem_checkCount h
        rfl
    · simp at h
  · obtain ⟨target, rfl⟩ := exists_of_mem_issues_resolveMapping h
    rfl

/-- **The planning of a method reports only issues of the planning.** -/
theorem fromPlanning_of_planMethod {query : Option NativeQuery}
    (h : issue ∈ (planMethod context signature query).issues) :
    issue.FromPlanning signature.name := by
  cases query with
  | none => exact fromPlanning_of_planDerived h
  | some query => exact fromPlanning_of_planNative h

end

end QueryMethods
