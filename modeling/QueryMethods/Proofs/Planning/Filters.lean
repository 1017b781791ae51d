/-
Which derived statements reach rows without a filter.

The filter of a statement is its `WHERE` clause, and the clause is missing only where the name
states no condition.  Of the statements that take one, two are worth knowing by name: one that
deletes, since without a filter it empties the table, and one that finds every row, since what
its name says behind `findAll` is read only if it continues with `By`.
-/
import QueryMethods.Proofs.MethodName.Restrictions
import QueryMethods.Proofs.Planning.Derived
import QueryMethods.Proofs.Sql.Slots

namespace QueryMethods

/-! ### Clauses that are missing -/

namespace Entity

variable {e : Entity} {naming : Naming} {conditions : List Condition}

theorem whereClause_eq_empty_iff : e.whereClause naming conditions = "" ↔ conditions = [] := by
  cases conditions with
  | nil => simp [whereClause]
  | cons first others =>
      refine iff_of_false (fun hempty => ?_) (List.cons_ne_nil _ _)
      have hlength := congrArg String.length hempty
      simp only [whereClause, String.length_append, String.length_empty] at hlength
      have hword : " WHERE ".length = 7 := rfl
      omega

/-- A statement is its opening exactly where nothing is filtered. -/
theorem append_whereClause_eq_iff (opening : String) :
    opening ++ e.whereClause naming conditions = opening ↔ conditions = [] := by
  rw [String.append_eq_left_iff, whereClause_eq_empty_iff]

end Entity

/-! ### Statements that delete -/

/-- A plan that deletes comes from a name that deletes, and its filter is what the name
states. -/
theorem DerivedPlan.sql_of_delete {context : Context} {signature : Signature} {plan : Plan}
    {entity : Entity} {template : Template} {bindings : List Binding} {unbound : List Issue}
    (h : DerivedPlan context signature plan entity template bindings unbound)
    (hkind : plan.kind = .delete) :
    (MethodName.ofText signature.name).operation = .delete ∧
      plan.sql = "DELETE FROM " ++ entity.table ++
        entity.whereClause context.naming (MethodName.ofText signature.name).conditions := by
  rw [h.plan_eq] at hkind ⊢
  rcases Entity.template_cases h.template_eq with ⟨-, projection, -, rfl⟩ | ⟨hoperation, rfl⟩ |
    ⟨-, rfl⟩ | ⟨-, rfl⟩
  · cases hkind
  · exact ⟨hoperation, Entity.deleteTemplate_sql _⟩
  · cases hkind
  · cases hkind

/-- **A derived plan that deletes has a filter, unless its method is called `deleteBy`.**  The
filter has a condition for each that the name states, and there is one.  Of `deleteBy` alone
nothing is left behind its operation, and every row of the table is deleted. -/
theorem planDerived_delete_filtered_iff {context : Context} {signature : Signature} {plan : Plan}
    (hplan : (planDerived context signature).value? = some plan) (hkind : plan.kind = .delete) :
    ∃ entity, context.entity = some entity ∧
      (signature.name ≠ "deleteBy" ↔ ∃ first others,
        (MethodName.ofText signature.name).conditions = first :: others ∧
        plan.sql = "DELETE FROM " ++ entity.table ++
          (" WHERE " ++ entity.conditionText context.naming first ++
            String.join (others.map (entity.linkedText context.naming)))) ∧
      (signature.name = "deleteBy" ↔ plan.sql = "DELETE FROM " ++ entity.table) := by
  obtain ⟨entity, template, bindings, unbound, hderived⟩ := planDerived_cases hplan
  obtain ⟨hoperation, hsql⟩ := hderived.sql_of_delete hkind
  obtain ⟨stated, hname, hconditions⟩ := MethodName.exists_of_operation_eq_delete hoperation
  have hbare : (MethodName.ofText signature.name).conditions = [] ↔
      signature.name = "deleteBy" := by
    rw [hconditions, hname, String.append_eq_left_iff]
  refine ⟨entity, hderived.entity_eq, ?_, ?_⟩
  · rw [ne_eq, ← hbare]
    constructor
    · intro hsome
      obtain ⟨first, others, hcut⟩ := List.exists_cons_of_ne_nil hsome
      refine ⟨first, others, hcut, ?_⟩
      rw [hsql, hcut]
      rfl
    · rintro ⟨first, others, hcut, -⟩
      rw [hcut]
      exact List.cons_ne_nil _ _
  · rw [← hbare, hsql, Entity.append_whereClause_eq_iff]

/-- Users are deleted by a name, or where their age is missing. -/
theorem planDerived_delete_filtered_iff_users :
    let entity : Entity := .ofFields "users" ["id", "name", "age"]
    let context : Context := ⟨some entity, .snake, false, false⟩
    let signature : Signature :=
      ⟨"deleteByNameOrAgeIsNull", [⟨"name", none, .scalar .text "&str"⟩], .unit, false⟩
    ∃ plan, (planDerived context signature).value? = some plan ∧ plan.kind = .delete ∧
      ∃ first others, (MethodName.ofText signature.name).conditions = first :: others ∧
        plan.sql = "DELETE FROM " ++ entity.table ++
          (" WHERE " ++ entity.conditionText context.naming first ++
            String.join (others.map (entity.linkedText context.naming))) := by
  intro entity context signature
  have hmap : (planDerived context signature).value?.map (·.kind) = some .delete := by
    decide +kernel
  obtain ⟨plan, hplan, hkind⟩ := Option.map_eq_some_iff.mp hmap
  obtain ⟨entity', hentity, hfiltered, -⟩ := planDerived_delete_filtered_iff hplan hkind
  obtain rfl : entity = entity' := Option.some.inj hentity
  exact ⟨plan, hplan, hkind, hfiltered.mp (by decide)⟩

/-- The method `deleteBy` is planned without an issue, and deletes every user. -/
theorem planDerived_deleteBy_users :
    let context : Context := ⟨some (.ofFields "users" ["id", "name"]), .snake, false, false⟩
    ∃ plan, planDerived context ⟨"deleteBy", [], .unit, false⟩ = .clean plan ∧
      plan.kind = .delete ∧ plan.sql = "DELETE FROM users" ∧
      (MethodName.ofText "deleteBy").conditions = [] := by
  exact ⟨_, rfl, rfl, rfl, rfl⟩

/-! ### Statements that find every row -/

/-- A name that finds every row selects all columns, under the conditions that it states. -/
theorem Entity.template_of_findAll {e : Entity} {naming : Naming} {name : MethodName}
    (h : name.operation = .findAll) :
    e.template naming name = .ok (e.selectTemplate naming "*" name.conditions) := by
  rw [template, h]

theorem findAllBy_append (stated : String) :
    "findAllBy" ++ stated = "findAll" ++ ("By" ++ stated) := by
  rw [← String.append_assoc]
  rfl

/-- The names that begin with `findAll` are the ones that are meant only if nothing else
follows. -/
theorem findAll_begins_iff_meant (name : String) :
    ((∃ rest, name = "findAll" ++ rest) ↔
        name = "findAll" ∨ ∃ stated, name = "findAllBy" ++ stated) ↔
      ∀ rest, name = "findAll" ++ rest → rest = "" ∨ ∃ stated, rest = "By" ++ stated := by
  constructor
  · intro hmeant rest hname
    rcases hmeant.mp ⟨rest, hname⟩ with hbare | ⟨stated, hby⟩
    · exact Or.inl (String.append_eq_left_iff.mp (hname.symm.trans hbare))
    · refine Or.inr ⟨stated, (String.append_right_inj "findAll").mp ?_⟩
      rw [← hname, hby, findAllBy_append]
  · intro hrest
    constructor
    · rintro ⟨rest, hname⟩
      rcases hrest rest hname with rfl | ⟨stated, rfl⟩
      · exact Or.inl (hname.trans String.append_empty)
      · exact Or.inr ⟨stated, hname.trans (findAllBy_append stated).symm⟩
    · rintro (rfl | ⟨stated, rfl⟩)
      · exact ⟨"", rfl⟩
      · exact ⟨"By" ++ stated, findAllBy_append stated⟩

/-- **A name finds every row as soon as it begins with `findAll`, whatever follows.**  The names
that are meant are `findAll` alone and those that continue with `By`; they are all that there
are only as long as nothing else follows.  What else follows is passed over: a statement has
no filter unless its name continues with `By` and some text. -/
theorem findAll_unfiltered_iff (name : String) :
    ((MethodName.ofText name).operation = .findAll ↔ ∃ rest, name = "findAll" ++ rest) ∧
    (((MethodName.ofText name).operation = .findAll ↔
        name = "findAll" ∨ ∃ stated, name = "findAllBy" ++ stated) ↔
      ∀ rest, name = "findAll" ++ rest → rest = "" ∨ ∃ stated, rest = "By" ++ stated) ∧
    ∀ rest, name = "findAll" ++ rest → ∀ (entity : Entity) (naming : Naming), ∃ template,
      entity.template naming (MethodName.ofText name) = .ok template ∧
      (template.sql = "SELECT * FROM " ++ entity.table ↔
        ∀ stated, rest = "By" ++ stated → stated = "") := by
  have hbegins := MethodName.operation_ofText_eq_findAll_iff name
  refine ⟨hbegins, ?_, ?_⟩
  · rw [hbegins]
    exact findAll_begins_iff_meant name
  · rintro rest rfl entity naming
    have hoperation := hbegins.mpr ⟨rest, rfl⟩
    refine ⟨_, Entity.template_of_findAll hoperation, ?_⟩
    rw [Entity.selectTemplate_sql, ← MethodName.conditions_ofText_findAll_eq_nil_iff]
    exact Entity.append_whereClause_eq_iff ("SELECT " ++ "*" ++ " FROM " ++ entity.table)

/-- The word `Active` behind `findAll` is passed over: every user is found, active or not. -/
theorem findAll_passes_over_active :
    let name := MethodName.ofText "findAllActive"
    name.operation = .findAll ∧ name.conditions = [] ∧ "findAllActive" ≠ "findAll" ∧
      (∀ stated, "findAllActive" ≠ "findAllBy" ++ stated) ∧
      ((Entity.ofFields "users" ["id", "active"]).template .snake name).map (·.sql) =
        .ok "SELECT * FROM users" := by
  refine ⟨by decide, by decide, by decide, fun stated hstated => ?_, by decide⟩
  have hbegins : afterPrefix? "findAllBy".toList "findAllActive".toList = none := by decide
  rw [hstated, afterPrefix?_eq_some_iff.mpr String.toList_append] at hbegins
  exact Option.some_ne_none _ hbegins

end QueryMethods
