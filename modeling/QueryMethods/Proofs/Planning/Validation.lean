/-
What is checked of hand-written SQL, and what becomes of it when it runs.

The check of the names looks at each name once; the rewriting of a statement goes over
every marker and stops at the first one without a value.  They agree, because the first
name without a binding is the name of the first marker without a value
(`find?_unbound`).  So the advice of the planning says what will happen at run time, for
any values.

The check looks at the markers of one style only, that of the values.  A statement that
passes it can always be rewritten, but a text may have markers of the other style as well,
and those are nobody's: what becomes of them is said exactly at the end.
-/
import QueryMethods.Proofs.Planning.Issues
import QueryMethods.Proofs.Planning.Statement
import QueryMethods.Proofs.Sql.Rewriting

namespace QueryMethods

/-! ### Names by their first occurrence -/

@[simp] theorem mem_firstOccurrences {x : String} {names : List String} :
    x ∈ firstOccurrences names ↔ x ∈ names := by
  induction names with
  | nil => rfl
  | cons name rest ih =>
      rw [firstOccurrences, List.mem_cons, List.mem_cons, List.mem_filter, ih]
      by_cases hx : x = name
      · simp [hx]
      · simp [hx]

theorem pairwise_firstOccurrences (names : List String) :
    (firstOccurrences names).Pairwise (fun x y => names.idxOf x < names.idxOf y) := by
  induction names with
  | nil => exact List.Pairwise.nil
  | cons name rest ih =>
      have hlater : ∀ x ∈ (firstOccurrences rest).filter (· != name),
          (name :: rest).idxOf x = rest.idxOf x + 1 := by
        intro x hx
        have hne : x ≠ name := by simpa using (List.mem_filter.mp hx).2
        exact List.idxOf_cons_ne rest (Ne.symm hne)
      refine List.Pairwise.cons ?_ ?_
      · intro x hx
        rw [List.idxOf_cons_self, hlater x hx]
        omega
      · refine (ih.filter _).imp_of_mem ?_
        intro x y hx hy hlt
        rw [hlater x hx, hlater y hy]
        omega

/-- Whatever is looked for, it is first found where it occurs first. -/
theorem find?_firstOccurrences (p : String → Bool) (names : List String) :
    (firstOccurrences names).find? p = names.find? p := by
  induction names with
  | nil => rfl
  | cons name rest ih =>
      rw [firstOccurrences, List.find?_cons, List.find?_cons]
      cases hp : p name with
      | true => rfl
      | false =>
          have hsame : (fun x => decide ((x != name) = true ∧ p x = true)) = p := by
            funext x
            by_cases hx : x = name
            · simp [hx, hp]
            · simp [hx]
          rw [List.find?_filter, hsame]
          exact ih

/-! ### Names without a binding -/

/-- The names of markers that no binding has. -/
def unboundNames (sql : String) (bindings : List Binding) : List String :=
  (markerNames sql).filter (fun name => !bindings.any (·.name == name))

section

variable {sql : String} {bindings : List Binding}

theorem mem_unboundNames_iff {name : String} :
    name ∈ unboundNames sql bindings ↔
      (∃ m ∈ namedMarkers sql, m.name = name) ∧ ∀ b ∈ bindings, b.name ≠ name := by
  simp [unboundNames, markerNames]

theorem pairwise_unboundNames :
    (unboundNames sql bindings).Pairwise (fun x y =>
      ((namedMarkers sql).map (·.name)).idxOf x < ((namedMarkers sql).map (·.name)).idxOf y) :=
  (pairwise_firstOccurrences _).filter _

/-- A name has no value where no binding has it. -/
theorem isNone_lookup_zip {values : List Value} (hvalues : values.length = bindings.length)
    (name : String) :
    (((bindings.map (·.name)).zip values).lookup name).isNone =
      !bindings.any (·.name == name) := by
  have hnames : ((bindings.map (·.name)).zip values).map Prod.fst = bindings.map (·.name) :=
    List.map_fst_zip (by simp [hvalues])
  have hlookup : (((bindings.map (·.name)).zip values).lookup name).isSome = true ↔
      bindings.any (·.name == name) = true := by
    have hmem : name ∈ ((bindings.map (·.name)).zip values).map Prod.fst ↔
        name ∈ bindings.map (·.name) := by rw [hnames]
    rw [List.lookup_isSome_iff]
    simpa only [List.mem_map, List.any_eq_true, beq_iff_eq, @eq_comm _ name] using hmem
  rw [← Option.not_isSome, Bool.eq_iff_iff.mpr hlookup]

/-- The first marker without a value has the first name without a binding. -/
theorem find?_unbound (sql : String) {values : List Value}
    (hvalues : values.length = bindings.length) :
    ((namedMarkers sql).find? (fun m =>
      (((bindings.map (·.name)).zip values).lookup m.name).isNone)).map (·.name) =
        (unboundNames sql bindings).head? := by
  rw [unboundNames, List.head?_filter, markerNames, find?_firstOccurrences, List.find?_map]
  simp only [isNone_lookup_zip hvalues]
  rfl

theorem toPositional_of_head?_unboundNames {values : List Value} {name : String}
    (hvalues : values.length = bindings.length)
    (h : (unboundNames sql bindings).head? = some name) :
    BoundStatement.toPositional ⟨sql, .named ((bindings.map (·.name)).zip values)⟩ =
      .error (.unboundParameter name) := by
  rw [← find?_unbound sql hvalues] at h
  obtain ⟨m, hm, rfl⟩ := Option.map_eq_some_iff.mp h
  exact BoundStatement.toPositional_of_unbound hm

theorem toPositional_of_unboundNames_eq_nil {values : List Value}
    (hvalues : values.length = bindings.length) (h : unboundNames sql bindings = []) :
    ∃ filled : List Value, filled.length = (namedMarkers sql).length ∧
      BoundStatement.toPositional ⟨sql, .named ((bindings.map (·.name)).zip values)⟩ =
        .ok ⟨withPositional sql, .positional filled⟩ := by
  have hnone := find?_unbound sql hvalues
  rw [h, List.head?_nil, Option.map_eq_none_iff, List.find?_eq_none] at hnone
  have hbound : ∀ m ∈ namedMarkers sql,
      (((bindings.map (·.name)).zip values).lookup m.name).isSome = true := by
    intro m hm
    rw [← Option.not_isNone, Bool.eq_false_iff.mpr (hnone m hm)]
    rfl
  obtain ⟨filled, hok, hfilled⟩ := BoundStatement.toPositional_of_bound hbound
  refine ⟨filled, ?_, hok⟩
  simpa using congrArg List.length hfilled

end

/-! ### Hand-written queries planned -/

/-- Whether an issue is about a marker without a parameter. -/
def Issue.isParameterName : Issue → Bool
  | .parameterName .. => true
  | _ => false

theorem filter_isParameterName_map (method : String) (names : List String) :
    (names.map (Issue.parameterName method)).filter Issue.isParameterName =
      names.map (.parameterName method) := by
  rw [List.filter_eq_self]
  intro issue hissue
  obtain ⟨name, -, rfl⟩ := List.mem_map.mp hissue
  rfl

/-- The mapping of a method with the settings of its query. -/
abbrev NativeQuery.resolution (query : NativeQuery) (signature : Signature) : Resolution :=
  resolveMapping signature.name signature.returns query.mapping query.columns query.resultType

/-- What the plan of a hand-written query is made of. -/
structure NativePlan (signature : Signature) (query : NativeQuery) (plan : Plan) : Prop where
  sql : plan.sql = query.sql
  style : plan.style = query.boundStyle
  bindings : plan.bindings = bindParameters signature.parameters
  outcome : planNative signature query = .ofIssues plan
    (query.check signature.name plan.bindings ++ (query.resolution signature).issues)

/-- Every hand-written query has a plan. -/
theorem exists_nativePlan (signature : Signature) (query : NativeQuery) :
    ∃ plan, NativePlan signature query plan := by
  refine ⟨{ method := signature.name, sql := query.sql, kind := query.kind
            style := query.boundStyle, bindings := bindParameters signature.parameters
            mapping := (query.resolution signature).mapping
            cardinality := (query.resolution signature).cardinality }, rfl, rfl, rfl, rfl⟩

theorem Outcome.ofIssues_eq_clean {α : Type} {value clean : α} {issues : List Issue}
    (h : Outcome.ofIssues value issues = .clean clean) : issues = [] ∧ value = clean := by
  rw [ofIssues] at h
  split at h
  · rename_i hempty
    exact ⟨List.isEmpty_iff.mp hempty, Outcome.clean.inj h⟩
  · simp at h

namespace NativePlan

variable {signature : Signature} {query : NativeQuery} {plan : Plan}

/-- The issues about names are those of the names without a binding. -/
theorem filter_isParameterName (h : NativePlan signature query plan)
    (hvalidate : query.validate = true) (hstyle : query.boundStyle = .named) :
    (planNative signature query).issues.filter Issue.isParameterName =
      (unboundNames query.sql plan.bindings).map (.parameterName signature.name) := by
  have hmapping : (query.resolution signature).issues.filter Issue.isParameterName = [] := by
    rw [List.filter_eq_nil_iff]
    intro issue hissue
    obtain ⟨target, rfl⟩ := exists_of_mem_issues_resolveMapping hissue
    simp [Issue.isParameterName]
  have hcheck : query.check signature.name plan.bindings =
      (unboundNames query.sql plan.bindings).map (.parameterName signature.name) := by
    rw [NativeQuery.check, if_pos hvalidate, hstyle]
    rfl
  rw [h.outcome, Outcome.issues_ofIssues, List.filter_append, hcheck, hmapping,
    filter_isParameterName_map, List.append_nil]

theorem clean_of_issues_eq_nil (h : NativePlan signature query plan)
    (hissues : (planNative signature query).issues = []) :
    planNative signature query = .clean plan := by
  have houtcome := h.outcome
  rw [houtcome, Outcome.issues_ofIssues] at hissues
  rw [houtcome, hissues]
  rfl

/-- A plan without issues is one of the query, and its check found nothing. -/
theorem of_clean (h : planNative signature query = .clean plan) :
    NativePlan signature query plan ∧ query.check signature.name plan.bindings = [] := by
  obtain ⟨plan', hplan⟩ := exists_nativePlan signature query
  obtain ⟨hissues, rfl⟩ := Outcome.ofIssues_eq_clean (hplan.outcome.symm.trans h)
  exact ⟨hplan, (List.append_eq_nil_iff.mp hissues).1⟩

/-- A statement whose check found nothing is rewritten: with values in order it stays as it is,
and with values by name it gets one for each of its markers. -/
theorem toPositional_cases (hvalidate : query.validate = true)
    (hplan : planNative signature query = .clean plan) {values : List Value}
    (hvalues : values.length = plan.bindings.length) :
    (plan.style = .positional ∧ positionalMarkers plan.sql = values.length ∧
        (plan.statement values).toPositional = .ok ⟨plan.sql, .positional values⟩) ∨
      (plan.style = .named ∧
        ∃ filled : List Value, filled.length = (namedMarkers plan.sql).length ∧
          (plan.statement values).toPositional =
            .ok ⟨withPositional plan.sql, .positional filled⟩) := by
  obtain ⟨hnative, hcheck⟩ := of_clean hplan
  rw [NativeQuery.check, if_pos hvalidate, ← hnative.style, ← hnative.sql] at hcheck
  cases hstyle : plan.style with
  | positional =>
      rw [hstyle] at hcheck
      have hcount : positionalMarkers plan.sql = plan.bindings.length := by
        by_contra hne
        simp [checkCount, hne] at hcheck
      refine Or.inl ⟨rfl, hcount.trans hvalues.symm, ?_⟩
      rw [Plan.statement_of_positional hstyle]
      rfl
  | named =>
      rw [hstyle] at hcheck
      have hunbound : unboundNames plan.sql plan.bindings = [] := List.map_eq_nil_iff.mp hcheck
      obtain ⟨filled, hlength, hok⟩ := toPositional_of_unboundNames_eq_nil hvalues hunbound
      refine Or.inr ⟨rfl, filled, hlength, ?_⟩
      rw [Plan.statement_of_named hstyle, hok]

end NativePlan

/-- **Code of a query without issues never lacks a value.** -/
theorem CodeSource.exists_toPositional_of_clean {s : CodeSource} {call : Call} {q : Query}
    {arguments : List (String × Datum)} {st : BoundStatement} {signature : Signature}
    {query : NativeQuery} {plan : Plan} (hvalidate : query.validate = true)
    (hplan : planNative signature query = .clean plan) (hq : s.query call plan = .ok q)
    (hst : q.statement arguments = some st) : ∃ rewritten, st.toPositional = .ok rewritten := by
  obtain ⟨values, hvalues, rfl⟩ := CodeSource.exists_statement_eq hq hst
  rcases NativePlan.toPositional_cases hvalidate hplan hvalues with
    ⟨-, -, hok⟩ | ⟨-, filled, -, hok⟩
  · exact ⟨_, hok⟩
  · exact ⟨_, hok⟩

/-- **The advice about names says what happens at run time.**  There is one issue for each name
that no binding has, in the order in which the names occur first.  With any values, the
rewriting of the statement fails just when there is such an issue, at the name of the first
one. -/
theorem planNative_predicts_unbound {signature : Signature} {query : NativeQuery}
    (hvalidate : query.validate = true) (hstyle : query.boundStyle = .named) :
    ∃ plan names, (planNative signature query).value? = some plan ∧
      plan.sql = query.sql ∧ plan.style = .named ∧
      (planNative signature query).issues.filter Issue.isParameterName =
        names.map (.parameterName signature.name) ∧
      (∀ name, name ∈ names ↔
        (∃ m ∈ namedMarkers query.sql, m.name = name) ∧ ∀ b ∈ plan.bindings, b.name ≠ name) ∧
      names.Pairwise (fun x y => ((namedMarkers query.sql).map (·.name)).idxOf x <
        ((namedMarkers query.sql).map (·.name)).idxOf y) ∧
      ∀ values : List Value, values.length = plan.bindings.length →
        (∀ name, (plan.statement values).toPositional = .error (.unboundParameter name) ↔
          names.head? = some name) ∧
        ((∃ s, (plan.statement values).toPositional = .ok s) ↔ names = []) := by
  obtain ⟨plan, hplan⟩ := exists_nativePlan signature query
  have hnamed : plan.style = .named := hplan.style.trans hstyle
  refine ⟨plan, unboundNames query.sql plan.bindings, ?_, hplan.sql, hnamed,
    hplan.filter_isParameterName hvalidate hstyle, fun _ => mem_unboundNames_iff,
    pairwise_unboundNames, ?_⟩
  · rw [hplan.outcome, Outcome.value?_ofIssues]
  · intro values hvalues
    rw [Plan.statement_of_named hnamed, hplan.sql]
    cases hunbound : unboundNames query.sql plan.bindings with
    | nil =>
        obtain ⟨filled, -, hok⟩ := toPositional_of_unboundNames_eq_nil hvalues hunbound
        rw [hok]
        simp
    | cons name names =>
        have hhead : (unboundNames query.sql plan.bindings).head? = some name := by
          rw [hunbound]
          rfl
        rw [toPositional_of_head?_unboundNames hvalues hhead]
        simp

/-- A name that no parameter has is reported once, however often it occurs, and stops the
statement. -/
theorem planNative_predicts_unbound_repeated :
    let query : NativeQuery := { sql := "SELECT * FROM t WHERE x = :b AND y = :a::int OR z = :b" }
    let signature : Signature :=
      ⟨"lookup", [⟨"first", some "a", .scalar .long "i64"⟩], .sequence (.named "User"), false⟩
    query.validate = true ∧ query.boundStyle = .named ∧
      (planNative signature query).issues.filter Issue.isParameterName =
        [.parameterName "lookup" "b"] ∧
      ∃ plan, (planNative signature query).value? = some plan ∧
        ∀ value, (plan.statement [value]).toPositional = .error (.unboundParameter "b") := by
  intro query signature
  have hstyle : query.boundStyle = .named := by decide +kernel
  have hissues : (planNative signature query).issues.filter Issue.isParameterName =
      [.parameterName "lookup" "b"] := by decide +kernel
  have hvalidate : query.validate = true := rfl
  obtain ⟨plan, names, hplan, -, -, hnames, -, -, hrun⟩ :=
    @planNative_predicts_unbound signature query hvalidate hstyle
  refine ⟨hvalidate, hstyle, hissues, plan, hplan, ?_⟩
  have hbindings : plan.bindings.length = 1 := by
    rw [planNative, Outcome.value?_ofIssues] at hplan
    rw [← Option.some.inj hplan]
    rfl
  obtain ⟨name, rfl, hname⟩ := List.map_eq_singleton_iff.mp (hnames.symm.trans hissues)
  obtain rfl : name = "b" := (Issue.parameterName.inj hname).2
  intro value
  exact ((hrun [value] hbindings.symm).1 "b").mpr rfl

/-- **How far a check without issues goes.**  With any values, a statement that passed the check
is rewritten.  Named markers are left just when values in order are given to a text that has
some, and there are too many positional markers just when values by name are given to a text
that has some of its own. -/
theorem planNative_filled_iff {signature : Signature} {query : NativeQuery} {plan : Plan}
    (hvalidate : query.validate = true) (hplan : planNative signature query = .clean plan)
    {values : List Value} (hvalues : values.length = plan.bindings.length) :
    ∃ sql filled, (plan.statement values).toPositional = .ok ⟨sql, .positional filled⟩ ∧
      (namedMarkers sql = [] ↔ (plan.style = .positional → namedMarkers plan.sql = [])) ∧
      (positionalMarkers sql = filled.length ↔
        (plan.style = .named → positionalMarkers plan.sql = 0)) := by
  rcases NativePlan.toPositional_cases hvalidate hplan hvalues with
    ⟨hstyle, hcount, hok⟩ | ⟨hstyle, filled, hlength, hok⟩
  · refine ⟨plan.sql, values, hok, ?_, ?_⟩
    · simp [hstyle]
    · simp [hstyle, hcount]
  · refine ⟨withPositional plan.sql, filled, hok, ?_, ?_⟩
    · simp [hstyle, namedMarkers_withPositional]
    · simp [hstyle, positionalMarkers_withPositional, hlength]

/-- Values by name fill a text with named markers only, in whatever order they are given. -/
theorem planNative_filled_iff_rename :
    let query : NativeQuery := { sql := "UPDATE users SET name = :name WHERE id = :id::int" }
    let signature : Signature :=
      ⟨"rename", [⟨"id", none, .scalar .long "i64"⟩, ⟨"name", none, .scalar .text "String"⟩],
        .unit, false⟩
    query.validate = true ∧ ∃ plan, planNative signature query = .clean plan ∧
      ∀ id name : Value, [id, name].length = plan.bindings.length ∧
        ∃ sql filled, (plan.statement [id, name]).toPositional = .ok ⟨sql, .positional filled⟩ ∧
          namedMarkers sql = [] ∧ positionalMarkers sql = filled.length := by
  intro query signature
  have hvalidate : query.validate = true := rfl
  obtain ⟨plan, hnative⟩ := exists_nativePlan signature query
  have hplan : planNative signature query = .clean plan :=
    hnative.clean_of_issues_eq_nil (by decide +kernel)
  have hstyle : plan.style = .named := by
    rw [hnative.style]
    decide +kernel
  refine ⟨hvalidate, plan, hplan, ?_⟩
  intro id name
  have hvalues : [id, name].length = plan.bindings.length := by
    rw [hnative.bindings]
    rfl
  obtain ⟨sql, filled, hok, hnamed, hcount⟩ := planNative_filled_iff hvalidate hplan hvalues
  refine ⟨hvalues, sql, filled, hok, hnamed.mpr ?_, hcount.mpr ?_⟩
  · simp [hstyle]
  · intro _
    rw [hnative.sql]
    decide +kernel

/-- A text with markers of both styles passes the check, and one of its markers stays without a
value. -/
theorem planNative_clean_of_both_styles :
    let query : NativeQuery := { sql := "SELECT * FROM users WHERE id = ? AND name = :name" }
    let signature : Signature :=
      ⟨"lookup", [⟨"name", none, .scalar .text "String"⟩], .sequence (.named "User"), false⟩
    query.validate = true ∧ ∃ plan, planNative signature query = .clean plan ∧
      ∀ name : Value, [name].length = plan.bindings.length ∧
        ∃ filled, (plan.statement [name]).toPositional =
            .ok ⟨"SELECT * FROM users WHERE id = ? AND name = ?", .positional filled⟩ ∧
          filled.length = 1 ∧
          positionalMarkers "SELECT * FROM users WHERE id = ? AND name = ?" = 2 := by
  intro query signature
  obtain ⟨plan, hnative⟩ := exists_nativePlan signature query
  have hplan : planNative signature query = .clean plan :=
    hnative.clean_of_issues_eq_nil (by decide +kernel)
  have hstyle : plan.style = .named := by
    rw [hnative.style]
    decide +kernel
  have hmarkers : (namedMarkers query.sql).length = 1 := by decide +kernel
  have hsql : withPositional query.sql = "SELECT * FROM users WHERE id = ? AND name = ?" := by
    decide +kernel
  refine ⟨rfl, plan, hplan, ?_⟩
  intro name
  have hvalues : [name].length = plan.bindings.length := by
    rw [hnative.bindings]
    rfl
  rcases NativePlan.toPositional_cases rfl hplan hvalues with
    ⟨hpositional, -⟩ | ⟨-, filled, hlength, hok⟩
  · rw [hstyle] at hpositional
    simp at hpositional
  · rw [hnative.sql] at hlength hok
    rw [hsql] at hok
    exact ⟨hvalues, filled, hok, hlength.trans hmarkers, by decide⟩

end QueryMethods
