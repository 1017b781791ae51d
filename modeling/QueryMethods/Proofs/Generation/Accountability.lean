/-
What a generation accounts for.

Issues come from the planning and from every step of the emission that fails: the parameters,
the mapping, the placeholder, the body, each way of an existence method.  Whoever shows them
relies on four things.  An outcome that is not clean has an issue to show; the issues are about
the method that was generated; a method without a convention has a body that says so; and what
the planning reported stands in front, as it was.  `Accounts` puts the four together.

The emission only ever adds failures behind the issues of the plan, and it adds one at least
where it ends without a body.  That is all there is to the argument: `exists_emitted` says it of
the emission, whatever the emitter does, and the other outcomes are made of one list of issues
that is not empty to begin with.
-/
import QueryMethods.Proofs.Generation.Fallback
import QueryMethods.Proofs.Planning.Issues

namespace QueryMethods

/-- An outcome accounts for a method whose planning reported some issues. -/
structure Outcome.Accounts {α : Type} (outcome : Outcome α) (method : String)
    (planned : List Issue) : Prop where
  /-- Advice is never empty. -/
  warned : ∀ value issues, outcome = .warned value issues → issues ≠ []
  /-- A method without a convention has a reason, and a body that says so. -/
  unsupported : ∀ name issues body, outcome = .unsupported name issues body →
    issues ≠ [] ∧ body.isSome = true
  /-- A failed method has a reason. -/
  kept : ∀ name issues, outcome = .kept name issues → issues ≠ []
  /-- Every issue is about the method. -/
  method_eq : ∀ issue ∈ outcome.issues, issue.method = method
  /-- What the planning reported comes first, in its order. -/
  planned_first : planned <+: outcome.issues

theorem Issue.FromPlanning.method_eq {method : String} {issue : Issue}
    (h : issue.FromPlanning method) : issue.method = method := by
  cases issue with
  | emissionFailed m stage reason => exact h.1
  | notAsync m => exact False.elim h
  | unsupportedReturn m reason => exact False.elim h
  | _ => exact h

/-- A plan is a plan of its method. -/
theorem method_of_planMethod {context : Context} {signature : Signature}
    {query : Option NativeQuery} {plan : Plan}
    (h : (planMethod context signature query).value? = some plan) :
    plan.method = signature.name := by
  cases query with
  | none =>
      obtain ⟨entity, template, bindings, unbound, hplan⟩ := planDerived_cases h
      rw [hplan.plan_eq]
      rfl
  | some query =>
      rw [planMethod, planNative, Outcome.value?_ofIssues, Option.some.injEq] at h
      rw [← h]

namespace Outcome.Accounts

variable {α : Type} {method : String} {planned issues : List Issue}

/-- What is made of a body and issues accounts for them, if there is an issue where there is no
body. -/
theorem of_body? (name : String) {body : Option α} (hbody : body = none → issues ≠ [])
    (hmethod : ∀ issue ∈ issues, issue.method = method) (hplanned : planned <+: issues) :
    (Outcome.ofBody? name issues body).Accounts method planned := by
  cases body with
  | none =>
      refine ⟨by simp [ofBody?], by simp [ofBody?], ?_, hmethod, hplanned⟩
      intro name' issues' hkept
      rw [← (Outcome.kept.inj hkept).2]
      exact hbody rfl
  | some body =>
      have hissues : (Outcome.ofBody? name issues (some body)).issues = issues := issues_ofIssues
      refine ⟨?_, ?_, ?_, by rwa [hissues], by rwa [hissues]⟩
      · intro value issues' hwarned
        rw [ofBody?, ofIssues] at hwarned
        split at hwarned
        · simp at hwarned
        · rename_i hne
          rw [← (Outcome.warned.inj hwarned).2]
          exact fun hnil => hne (List.isEmpty_iff.mpr hnil)
      · intro name' issues' body' hunsupported
        rw [ofBody?, ofIssues] at hunsupported
        split at hunsupported <;> simp at hunsupported
      · intro name' issues' hkept
        rw [ofBody?, ofIssues] at hkept
        split at hkept <;> simp at hkept

/-- A failure accounts for its reasons. -/
theorem kept_of_ne_nil (name : String) (hne : issues ≠ [])
    (hmethod : ∀ issue ∈ issues, issue.method = method) (hplanned : planned <+: issues) :
    (Outcome.kept name issues : Outcome α).Accounts method planned := by
  have hnone : Outcome.ofBody? name issues (none : Option α) = .kept name issues := rfl
  rw [← hnone]
  exact of_body? name (fun _ => hne) hmethod hplanned

/-- A body for a method without a convention accounts for the reasons. -/
theorem unsupported_of_ne_nil (name : String) (body : α) (hne : issues ≠ [])
    (hmethod : ∀ issue ∈ issues, issue.method = method) (hplanned : planned <+: issues) :
    (Outcome.unsupported name issues (some body)).Accounts method planned := by
  refine ⟨by simp, ?_, by simp, hmethod, hplanned⟩
  intro name' issues' body' hunsupported
  obtain ⟨-, hissues, hbody⟩ := Outcome.unsupported.inj hunsupported
  rw [← hissues, ← hbody]
  exact ⟨hne, rfl⟩

/-- A method that is passed over has nothing to account for. -/
theorem skipped (name : String) : (Outcome.skipped name : Outcome α).Accounts method [] :=
  ⟨by simp, by simp, by simp, by simp [Outcome.issues], List.prefix_rfl⟩

end Outcome.Accounts

/-! ### The emission -/

section

variable {σ ε ω : Type}

/-- The emission of a plan ends with a body or with a failure, and every failure is one of the
method of the plan. -/
theorem exists_emitted (context : Context) (E : Emitter σ ε ω) (operation : Option Operation)
    (plan : Plan) (s : σ) : ∃ body failures s',
      (emitMethod context E operation plan).run s = ((body, failures), s') ∧
      (body = none → failures ≠ []) ∧ ∀ issue ∈ failures, issue.method = plan.method := by
  by_cases hop : operation = some .exist
  · obtain ⟨failures, body, s', log, hrecords, hanswered⟩ :=
      exists_firstAnswered context E plan ExistsWay.chain s
    obtain ⟨-, hbody⟩ := hanswered.failures_eq
    refine ⟨body, failures.map (E.wayIssue plan.method), s', ?_, ?_, ?_⟩
    · rw [emitMethod, if_pos hop]
      exact hrecords.plain
    · intro hnone hnil
      have hlength := hbody.mp hnone
      rw [List.map_eq_nil_iff.mp hnil] at hlength
      simp [ExistsWay.chain] at hlength
    · intro issue hissue
      obtain ⟨failure, -, rfl⟩ := List.mem_map.mp hissue
      rfl
  · rw [emitMethod, if_neg hop, StateT.run_bind]
    generalize (emitPlan E plan (operation == some .count)).run.run s = emitted
    obtain ⟨answer, s'⟩ := emitted
    cases answer with
    | ok body => exact ⟨some body, [], s', rfl, by simp, by simp⟩
    | error e =>
        refine ⟨none, [.emissionFailed plan.method "emit" (E.describe e)], s', rfl, ?_, ?_⟩
        · exact fun _ => List.cons_ne_nil _ _
        · intro issue hissue
          rw [List.mem_singleton.mp hissue]
          rfl

/-- **The outcome of a generation accounts for its method.**

Whatever the emitter does, an outcome that is not clean has issues, all of them about the
method; a method without a convention has a body; and the issues of the planning stand in front,
none of them dropped or moved. -/
theorem generateMethod_accounts (context : Context) (signature : Signature)
    (query : Option NativeQuery) (E : Emitter σ ε ω) (s : σ) :
    ((generateMethod context E signature query).run s).1.Accounts signature.name
      (planMethod context signature query).issues := by
  have hmethod : ∀ issue ∈ (planMethod context signature query).issues,
      issue.method = signature.name := fun _ hissue => (fromPlanning_of_planMethod hissue).method_eq
  cases hplan : (planMethod context signature query).value? with
  | some plan =>
      obtain ⟨body, failures, s', hrun, hne, hfailures⟩ :=
        exists_emitted context E (emittedOperation signature query) plan s
      rw [generateMethod_of_plan (planMethod_eq_ofIssues hplan), emitPlanned_eq_ofBody?,
        StateT.run_bind, hrun]
      refine .of_body? _ (fun hnone => List.append_ne_nil_of_right_ne_nil _ (hne hnone)) ?_
        (List.prefix_append _ _)
      intro issue hissue
      rcases List.mem_append.mp hissue with hissue | hissue
      · exact hmethod issue hissue
      · rw [hfailures issue hissue]
        exact method_of_planMethod hplan
  | none =>
      rcases planMethod_of_no_plan hplan with hnone | ⟨issues, hkept, hne⟩ | ⟨hskipped, -⟩
      · rw [generateMethod_of_unsupported E hnone, hnone, emitPlaceholder, StateT.run_bind]
        rw [hnone] at hmethod
        generalize (E.placeholder _ _).run.run s = placed
        obtain ⟨answer, s'⟩ := placed
        cases answer with
        | ok body =>
            exact .unsupported_of_ne_nil _ body (List.cons_ne_nil _ _) hmethod List.prefix_rfl
        | error e =>
            refine .kept_of_ne_nil _ (List.cons_ne_nil _ _) ?_ (List.prefix_append _ _)
            intro issue hissue
            rcases List.mem_append.mp hissue with hissue | hissue
            · exact hmethod issue hissue
            · rw [List.mem_singleton.mp hissue]
              rfl
      · rw [generateMethod_of_kept E hkept, hkept]
        rw [hkept] at hmethod
        exact .kept_of_ne_nil _ hne hmethod List.prefix_rfl
      · rw [generateMethod_of_skipped E hskipped, hskipped]
        exact .skipped _

end

end QueryMethods
