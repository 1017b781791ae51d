/-
A derived statement read as if it were written by hand.

One way of planning knows everything about its statement because it wrote it: the kind,
the number of markers, that no marker has a name.  The other finds all this out from the
text.  For the statements that filter rows the two agree: the text opens with the word
of its kind, it has one marker for each slot, and without colons in the names it has no
named markers at all.  So planning the text again gives the same plan, and the same
advice but for fields that are not declared, which the text does not show.
-/
import QueryMethods.Proofs.Planning.Issues
import QueryMethods.Proofs.Sql.Slots

namespace QueryMethods

/-! ### Texts without colons -/

theorem markersAt_scan_eq_nil (s : List Char) :
    ∀ start, ':' ∉ s → markersAt start (SqlPiece.scan s) = [] := by
  induction s using SqlPiece.scan.induct with
  | case1 => intro start _; simp [SqlPiece.scan, markersAt]
  | case2 c => intro start _; simp [SqlPiece.scan, markersAt]
  | case3 rest ih => intro start h; simp at h
  | case4 c d rest _ hname ih =>
      intro start h
      rw [hname.1] at h
      simp at h
  | case5 c d rest hcast hname ih =>
      intro start h
      have hscan : SqlPiece.scan (c :: d :: rest) = .plain c :: SqlPiece.scan (d :: rest) := by
        rw [SqlPiece.scan, if_neg hname]
        exact hcast
      rw [hscan]
      exact ih _ (fun hmem => h (List.mem_cons_of_mem _ hmem))

theorem markerNames_eq_nil {sql : String} (h : ':' ∉ sql.toList) : markerNames sql = [] := by
  rw [markerNames, namedMarkers, markersAt_scan_eq_nil _ _ h]
  rfl

/-! ### Statements that filter rows -/

/-- What the text of a statement says about it. -/
structure ReadsBack (t : Template) : Prop where
  kind : StatementKind.ofSql t.sql = t.kind
  unnamed : markerNames t.sql = []
  positional : positionalMarkers t.sql = t.slots.length

theorem ofSql_of_select {sql : String} (rest : List Char)
    (h : sql.toList = "SELECT ".toList ++ rest) : StatementKind.ofSql sql = .select := by
  rw [StatementKind.ofSql, h]
  rfl

theorem ofSql_of_delete {sql : String} (rest : List Char)
    (h : sql.toList = "DELETE ".toList ++ rest) : StatementKind.ofSql sql = .delete := by
  rw [StatementKind.ofSql, h]
  rfl

namespace Entity

variable {e : Entity} {naming : Naming}

theorem colon_not_mem_whereClause {conditions : List Condition}
    (h : ∀ c ∈ conditions, ':' ∉ (e.column naming c.field).toList) :
    ':' ∉ (e.whereClause naming conditions).toList := by
  rw [whereClause_eq_text]
  refine Layout.not_mem_text (by simp [conditionLayout]) ?_
  intro c hc
  have hconnector : ':' ∉ c.connector.token.toList := by cases c.connector <;> decide
  have htoken : ':' ∉ c.comparison.token.toList := by cases c.comparison <;> decide
  have hoperands : ':' ∉ c.comparison.operands.toList := by cases c.comparison <;> decide
  simp only [conditionLayout, conditionText, String.toList_append, List.mem_append, not_or]
  exact ⟨⟨⟨by decide, hconnector⟩, by decide⟩, ⟨⟨h c hc, by decide⟩, htoken⟩, hoperands⟩

theorem selectTemplate_readsBack {projection : String} (hprojection : projection ∈ projections)
    {name : MethodName} (h : ∀ d ∈ ['?', ':'], e.NamesAvoid naming d name .select) :
    ReadsBack (e.selectTemplate naming projection name.conditions) := by
  have hclean : ∀ p ∈ projections, ':' ∉ p.toList := by decide
  have hcolon := h ':' (by simp)
  refine ⟨?_, markerNames_eq_nil ?_, (marked_selectTemplate hprojection (h '?' (by simp))).count⟩
  · refine ofSql_of_select (projection.toList ++ " FROM ".toList ++ e.table.toList ++
      (e.whereClause naming name.conditions).toList) ?_
    rw [selectTemplate_sql]
    simp only [String.toList_append, List.append_assoc]
  · rw [selectTemplate_sql]
    simp only [String.toList_append, List.mem_append, not_or]
    exact ⟨⟨⟨⟨by decide, hclean projection hprojection⟩, by decide⟩, hcolon.table⟩,
      colon_not_mem_whereClause (fun c hc => hcolon.column c.field (List.mem_map_of_mem hc))⟩

theorem deleteTemplate_readsBack {name : MethodName}
    (h : ∀ d ∈ ['?', ':'], e.NamesAvoid naming d name .delete) :
    ReadsBack (e.deleteTemplate naming name.conditions) := by
  have hcolon := h ':' (by simp)
  refine ⟨?_, markerNames_eq_nil ?_, (marked_deleteTemplate (h '?' (by simp))).count⟩
  · refine ofSql_of_delete ("FROM ".toList ++ e.table.toList ++
      (e.whereClause naming name.conditions).toList) ?_
    rw [deleteTemplate_sql]
    simp only [String.toList_append]
    rfl
  · rw [deleteTemplate_sql]
    simp only [String.toList_append, List.mem_append, not_or]
    exact ⟨⟨by decide, hcolon.table⟩,
      colon_not_mem_whereClause (fun c hc => hcolon.column c.field (List.mem_map_of_mem hc))⟩

end Entity

/-- The operations whose statements filter rows. -/
def filteringOperations : List Operation := [.find, .findAll, .count, .delete, .exist]

theorem template_readsBack {e : Entity} {naming : Naming} {name : MethodName} {t : Template}
    (hop : name.operation ∈ filteringOperations) (ht : e.template naming name = .ok t)
    (havoid : ∀ d ∈ ['?', ':'], d ∉ e.table.toList ∧
      ∀ f ∈ name.fields, d ∉ (e.column naming f).toList) : ReadsBack t := by
  rcases Entity.template_cases ht with ⟨-, p, hp, rfl⟩ | ⟨-, rfl⟩ | ⟨hsave, -⟩ | ⟨hupdate, -⟩
  · exact Entity.selectTemplate_readsBack hp (fun d hd => ⟨(havoid d hd).1, (havoid d hd).2⟩)
  · exact Entity.deleteTemplate_readsBack (fun d hd => ⟨(havoid d hd).1, (havoid d hd).2⟩)
  · rw [hsave] at hop
    exact absurd hop (by decide)
  · rw [hupdate] at hop
    exact absurd hop (by decide)

theorem bindTemplate_of_filtering {signature : Signature} {operation : Operation}
    (h : operation ∈ filteringOperations) (t : Template) :
    bindTemplate signature operation t =
      .ok (bindConditions signature.name t signature.parameters) := by
  cases operation with
  | save => exact absurd h (by decide)
  | update => exact absurd h (by decide)
  | _ => rfl

/-- Planning the text of a template gives its plan, if the text says what it should. -/
theorem planNative_of_readsBack {t : Template} (h : ReadsBack t) (signature : Signature) :
    planNative signature { sql := t.sql } =
      .ofIssues (t.plan signature (bindParameters signature.parameters) (autoMapping signature))
        (checkCount signature.name t.slots.length (bindParameters signature.parameters) ++
          (autoMapping signature).issues) := by
  have hstyle : NativeQuery.boundStyle { sql := t.sql } = .positional := by
    simp [NativeQuery.boundStyle, detectedStyle, h.unnamed]
  have hkind : NativeQuery.kind { sql := t.sql } = t.kind := by
    rw [NativeQuery.kind, h.kind]
  have hcheck : NativeQuery.check { sql := t.sql } signature.name
      (bindParameters signature.parameters) =
      checkCount signature.name t.slots.length (bindParameters signature.parameters) := by
    rw [NativeQuery.check, hstyle, h.positional]
    rfl
  rw [planNative, hkind, hstyle, hcheck]
  rfl

/-- Of the issues of a statement that filters rows, only those of its fields are lost. -/
theorem filter_not_isUnknownField (signature : Signature) (entity : Entity) (name : MethodName)
    (markers : Nat) (bindings : List Binding) :
    (checkFields signature.name entity name ++ checkCount signature.name markers bindings ++
        (autoMapping signature).issues).filter (fun issue => !issue.isUnknownField) =
      checkCount signature.name markers bindings ++ (autoMapping signature).issues := by
  have hunknown : (checkFields signature.name entity name).filter
      (fun issue => !issue.isUnknownField) = [] := by
    rw [List.filter_eq_nil_iff]
    intro issue hi
    obtain ⟨field, rfl⟩ := exists_of_mem_checkFields hi
    simp [Issue.isUnknownField]
  have hcount : (checkCount signature.name markers bindings).filter
      (fun issue => !issue.isUnknownField) = checkCount signature.name markers bindings := by
    rw [List.filter_eq_self]
    intro issue hi
    obtain ⟨expected, found, rfl⟩ := exists_of_mem_checkCount hi
    rfl
  have hmapping : (autoMapping signature).issues.filter (fun issue => !issue.isUnknownField) =
      (autoMapping signature).issues := by
    rw [List.filter_eq_self]
    intro issue hi
    obtain ⟨target, rfl⟩ := exists_of_mem_issues_resolveMapping hi
    rfl
  rw [List.filter_append, List.filter_append, hunknown, hcount, hmapping, List.nil_append]

/-- **Planning the statement of a derived plan by hand gives the plan again**, and the same
issues but for fields that are not declared. -/
theorem planNative_planDerived {context : Context} {entity : Entity} {signature : Signature}
    {plan : Plan} (hentity : context.entity = some entity)
    (hop : (MethodName.ofText signature.name).operation ∈ filteringOperations)
    (havoid : ∀ d ∈ ['?', ':'], d ∉ entity.table.toList ∧
      ∀ f ∈ (MethodName.ofText signature.name).fields,
        d ∉ (entity.column context.naming f).toList)
    (hplan : (planDerived context signature).value? = some plan) :
    planNative signature { sql := plan.sql } =
      .ofIssues plan
        ((planDerived context signature).issues.filter (fun issue => !issue.isUnknownField)) := by
  obtain ⟨entity', t, bindings, unbound, hd⟩ := planDerived_cases hplan
  have hsame : entity' = entity := Option.some.inj (hd.entity_eq.symm.trans hentity)
  subst hsame
  have hbind := hd.bind_eq
  rw [bindTemplate_of_filtering hop] at hbind
  obtain ⟨rfl, rfl⟩ := Prod.mk.inj (Except.ok.inj hbind)
  have hreads := template_readsBack hop hd.template_eq havoid
  have hsql : plan.sql = t.sql := by
    rw [hd.plan_eq]
    rfl
  rw [hd.outcome_eq, Outcome.issues_ofIssues, hsql, planNative_of_readsBack hreads, hd.plan_eq]
  have hissues := filter_not_isUnknownField signature entity' (MethodName.ofText signature.name)
    t.slots.length (bindParameters signature.parameters)
  exact congrArg _ hissues.symm

/-- A condition on a field that is not declared is advice about the name only; a parameter
that is missing is advice about the statement as well. -/
theorem planNative_planDerived_nickname :
    let entity : Entity := ⟨"users", ["id", "userName"], some "id", []⟩
    let context : Context := ⟨some entity, .snake, false, false⟩
    let signature : Signature :=
      ⟨"findByUserNameInOrNicknameIsNull", [], .sequence (.named "User"), false⟩
    let plan : Plan :=
      { method := signature.name
        sql := "SELECT * FROM users WHERE user_name IN (?) OR nickname IS NULL"
        kind := .select, style := .positional, bindings := [], cardinality := .list
        mapping := ⟨.auto, .named "User", [], .record, none⟩ }
    (planDerived context signature).value? = some plan ∧
      (planDerived context signature).issues =
        [.unknownField signature.name "nickname", .parameterCount signature.name 1 0] ∧
      planNative signature { sql := plan.sql } =
        .ofIssues plan [.parameterCount signature.name 1 0] := by
  intro entity context signature plan
  have hop : (MethodName.ofText signature.name).operation ∈ filteringOperations := by decide
  have havoid : ∀ d ∈ ['?', ':'], d ∉ entity.table.toList ∧
      ∀ f ∈ (MethodName.ofText signature.name).fields,
        d ∉ (entity.column context.naming f).toList := by
    intro d hd
    rcases List.mem_cons.mp hd with rfl | hd
    · decide
    · rw [List.mem_singleton.mp hd]
      decide
  have hplan : (planDerived context signature).value? = some plan := by decide +kernel
  have hissues : (planDerived context signature).issues =
      [.unknownField signature.name "nickname", .parameterCount signature.name 1 0] := by
    decide +kernel
  have hentity : context.entity = some entity := rfl
  have hnative := planNative_planDerived hentity hop havoid hplan
  rw [hissues] at hnative
  exact ⟨hplan, hissues, hnative⟩

end QueryMethods
