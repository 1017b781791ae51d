/-
Generation from accepted settings never fails in the emitter.

Each failure of the emitter that makes code is ruled out by an agreement between two
readings of one source.  A parameter is found because the planning was given the plain
names of the same identifiers; a field, because the entity was made of the same list; a
type of elements, because the shape that the planning was given is that of the same type;
and a rule for rows, because only a method that answers with nothing has none.

So every plan of a candidate is covered by its source.  Its first body is taken, whatever
the operation, and no issue comes from the emitter.  The emitter of a block, switched to that
source, cannot be told from the emitter of the source, so it does not fail either.
-/
import QueryMethods.Expansion
import QueryMethods.Proofs.Generation.Coverage
import QueryMethods.Proofs.Generation.Switching
import QueryMethods.Proofs.Planning.Issues
import QueryMethods.Proofs.Planning.Scope

namespace QueryMethods

/-! ### What a candidate declares -/

namespace Candidate

/-- What the planning knows of a candidate, it knows from its source. -/
structure FromSource (c : Candidate) : Prop where
  parameters : ∀ p ∈ c.signature.parameters, ∃ a ∈ c.arguments, plainName a = p.name
  returns : c.signature.returns = c.okType.shape

theorem exists_input_of_mem_parameters {inputs : List (String × Syntax.Ty)}
    {renames : List (Option String)} {p : Parameter} (h : p ∈ parameters inputs renames) :
    ∃ a ∈ inputs.map (·.1), plainName a = p.name := by
  rw [parameters] at h
  obtain ⟨⟨⟨name, type⟩, rename⟩, hmem, rfl⟩ := List.mem_map.mp h
  exact ⟨name, List.mem_map_of_mem (List.of_mem_zip hmem).1, rfl⟩

theorem ofMethod_eq_ok {m : Syntax.Method} {renames : List (Option String)} {c : Candidate}
    (h : ofMethod m renames = .ok c) :
    ∃ inputs okType, c =
      ⟨⟨fieldName m.header.name, parameters inputs renames, okType.shape, !m.body.isEmpty⟩,
        plainName m.header.name, inputs.map (·.1), okType⟩ := by
  rw [ofMethod] at h
  split at h
  · simp at h
  · split at h
    · simp at h
    · split at h
      · simp at h
      · split at h
        · simp at h
        · exact ⟨_, _, (Except.ok.inj h).symm⟩

theorem fromSource_of_ofMethod {m : Syntax.Method} {renames : List (Option String)}
    {c : Candidate} (h : ofMethod m renames = .ok c) : c.FromSource := by
  obtain ⟨inputs, okType, rfl⟩ := ofMethod_eq_ok h
  exact ⟨fun p hp => exists_input_of_mem_parameters hp, rfl⟩

theorem hasBody_of_ofMethod {m : Syntax.Method} {renames : List (Option String)} {c : Candidate}
    (hc : ofMethod m renames = .ok c) : c.signature.hasBody = !m.body.isEmpty := by
  obtain ⟨inputs, okType, rfl⟩ := ofMethod_eq_ok hc
  rfl

end Candidate

/-! ### What settings list -/

namespace RepositorySettings

variable {settings : RepositorySettings}

/-- Pinning columns changes nothing else. -/
theorem foldl_withColumn (naming : Naming) (fields : List (String × String)) :
    ∀ e : Entity,
      fields.foldl (fun e (name, identifier) =>
        e.withColumn name (naming.identifierColumn identifier)) e =
      { e with pinned := (fields.map (fun (name, identifier) =>
          (name, naming.identifierColumn identifier))).reverse ++ e.pinned } := by
  induction fields with
  | nil => intro e; rfl
  | cons field rest ih =>
      intro e
      rw [List.foldl_cons, ih, List.map_cons, List.reverse_cons, List.append_assoc]
      rfl

theorem entityOfFields_eq (table : String) (fields : List (String × String)) :
    settings.entityOfFields table fields =
      { Entity.ofFields table (fields.map (·.1)) with
        pinned := (fields.map (fun (name, identifier) =>
          (name, settings.naming.identifierColumn identifier))).reverse } := by
  rw [entityOfFields, foldl_withColumn]
  congr 1
  exact List.append_nil _

theorem mem_of_knows_ofFields {table : String} {names : List String} {field : String}
    (h : (Entity.ofFields table names).Knows field) : field ∈ names := by
  rcases h with hmem | hkey
  · exact hmem
  · simp only [Entity.ofFields] at hkey
    split at hkey
    · rename_i hid
      rw [← Option.some.inj hkey]
      exact hid
    · simp at hkey

theorem mem_of_knows_entityOfFields {table : String} {fields : List (String × String)}
    {field : String} (h : (settings.entityOfFields table fields).Knows field) :
    field ∈ fields.map (·.1) := by
  rw [entityOfFields_eq] at h
  have hknows : (Entity.ofFields table (fields.map (·.1))).Knows field := h
  exact mem_of_knows_ofFields hknows

/-- A key that is given is one of the fields, and nothing else changes. -/
theorem withGivenKey_eq_ok {e e' : Entity} (h : settings.withGivenKey e = .ok e') :
    e' = e ∨ ∃ key ∈ e.fields, e' = e.withKey key := by
  rw [withGivenKey] at h
  split at h
  · exact Or.inl (Except.ok.inj h).symm
  · obtain ⟨identifier, -, h⟩ := exists_of_bind_eq_ok h
    simp only at h
    split at h
    · rename_i hhas
      exact Or.inr ⟨fieldName identifier, List.contains_iff_mem.mp hhas, (Except.ok.inj h).symm⟩
    · simp at h

theorem knows_of_withGivenKey {e e' : Entity} {field : String}
    (h : settings.withGivenKey e = .ok e') (hknows : e'.Knows field) : e.Knows field := by
  rcases withGivenKey_eq_ok h with rfl | ⟨key, hmem, rfl⟩
  · exact hknows
  · rcases hknows with hfield | hkey
    · exact Or.inl hfield
    · rw [← Option.some.inj hkey]
      exact Or.inl hmem

/-- A table comes with fields that are listed, and the entity is made of them. -/
theorem context_eq_ok {context : Context} {table : String}
    (htable : settings.tableName = some table) (h : settings.context = .ok context) :
    ∃ fields entity, settings.fieldNames = .ok fields ∧ fields.isEmpty = false ∧
      settings.withGivenKey (settings.entityOfFields table fields) = .ok entity ∧
      context = ⟨some entity, settings.naming, settings.nativeOnly, settings.strict⟩ := by
  rw [RepositorySettings.context, htable] at h
  obtain ⟨fields, hfields, h⟩ := exists_of_bind_eq_ok h
  split at h
  · simp at h
  · rename_i hnonempty
    obtain ⟨entity, hentity, h⟩ := exists_of_bind_eq_ok h
    exact ⟨fields, entity, hfields, Bool.eq_false_iff.mpr hnonempty, hentity,
      (Except.ok.inj h).symm⟩

theorem mem_of_knows_context {context : Context} {fields : List (String × String)}
    {entity : Entity} {field : String} (hcontext : settings.context = .ok context)
    (hfields : settings.fieldNames = .ok fields) (hentity : context.entity = some entity)
    (hknows : entity.Knows field) : field ∈ fields.map (·.1) := by
  cases htable : settings.tableName with
  | none =>
      rw [RepositorySettings.context, htable] at hcontext
      rw [← Except.ok.inj hcontext] at hentity
      simp at hentity
  | some table =>
      obtain ⟨fields', given, hfields', -, hgiven, rfl⟩ := context_eq_ok htable hcontext
      rw [hfields] at hfields'
      obtain rfl := Except.ok.inj hfields'
      rw [← Option.some.inj hentity] at hknows
      exact mem_of_knows_entityOfFields (knows_of_withGivenKey hgiven hknows)

/-- Every field that the entity knows has an identifier. -/
theorem mem_fields_of_surroundings {s : Surroundings} {entity : Entity} {field : String}
    (h : settings.surroundings = .ok s) (hentity : s.context.entity = some entity)
    (hknows : entity.Knows field) : field ∈ s.fields.map (·.1) := by
  rw [surroundings] at h
  obtain ⟨context, hcontext, h⟩ := exists_of_bind_eq_ok h
  obtain ⟨executor, -, h⟩ := exists_of_bind_eq_ok h
  obtain ⟨fields, hfields, h⟩ := exists_of_bind_eq_ok h
  obtain rfl := Except.ok.inj h
  exact mem_of_knows_context hcontext hfields hentity hknows

end RepositorySettings

/-! ### Sources made of settings and a candidate -/

namespace Surroundings

/-- What the code of a candidate is made for. -/
def source (s : Surroundings) (c : Candidate) (query : Option QuerySettings) : CodeSource :=
  ⟨s.executor, s.fields, c, query.bind (·.resultType)⟩

variable {s : Surroundings} {c : Candidate} (query : Option QuerySettings)

theorem exists_argument {b : Binding} (hc : c.FromSource)
    (hparameter : ∃ p ∈ c.signature.parameters, p.name = b.parameter) :
    ∃ name, (s.source c query).argument b.parameter = .ok name := by
  obtain ⟨p, hp, hname⟩ := hparameter
  obtain ⟨a, ha, hplain⟩ := hc.parameters p hp
  rw [CodeSource.argument]
  split
  · exact ⟨_, rfl⟩
  · rename_i hnone
    have hdiffers := List.find?_eq_none.mp hnone a ha
    rw [hplain, hname] at hdiffers
    simp at hdiffers

theorem exists_fieldIdentifier {field : String} (h : field ∈ s.fields.map (·.1)) :
    ∃ name, (s.source c query).fieldIdentifier field = .ok name := by
  obtain ⟨entry, hentry, hname⟩ := List.mem_map.mp h
  have hlookup : (s.fields.reverse.lookup field).isSome = true :=
    List.lookup_isSome_iff.mpr ⟨entry, List.mem_reverse.mpr hentry, by simp [hname]⟩
  obtain ⟨name, hname⟩ := Option.isSome_iff_exists.mp hlookup
  refine ⟨name, ?_⟩
  have hfields : (s.source c query).fields = s.fields := rfl
  rw [CodeSource.fieldIdentifier, hfields, hname]

theorem exists_element (hc : c.FromSource) {cardinality : Cardinality} {row : RowRule}
    (h : c.signature.returns.Allows cardinality row) :
    ∃ type, (s.source c query).element cardinality = .ok type := by
  have hfirst : cardinality = .list ∨ cardinality = .optional →
      ∃ type, c.okType.firstArgument = some type := by
    intro hmany
    apply Syntax.Ty.exists_firstArgument
    rw [← hc.returns]
    exact h.elements hmany
  cases cardinality with
  | list =>
      obtain ⟨type, htype⟩ := hfirst (Or.inl rfl)
      exact ⟨type, by simp only [CodeSource.element, source, htype]⟩
  | optional =>
      obtain ⟨type, htype⟩ := hfirst (Or.inr rfl)
      exact ⟨type, by simp only [CodeSource.element, source, htype]⟩
  | single => exact ⟨c.okType, rfl⟩
  | scalar => exact ⟨c.okType, rfl⟩
  | boolean => exact ⟨c.okType, rfl⟩
  | void => exact ⟨c.okType, rfl⟩

/-- The source of a candidate covers every plan that asks for no more than was declared. -/
theorem covers {settings : RepositorySettings} {plan : Plan}
    (hs : settings.surroundings = .ok s) (hc : c.FromSource)
    (hplan : plan.Scoped s.context c.signature) : (s.source c query).Covers plan := by
  refine ⟨?_, exists_element query hc hplan.result, hplan.result.rows⟩
  intro b hb
  obtain ⟨name, hname⟩ :=
    exists_argument (s := s) query hc (hplan.parameters b hb)
  rw [CodeSource.operand, hname]
  cases hsource : b.source with
  | argument => exact ⟨⟨name, none⟩, rfl⟩
  | field field =>
      obtain ⟨entity, hentity, hknows⟩ := hplan.fields b hb field hsource
      obtain ⟨identifier, hidentifier⟩ := exists_fieldIdentifier (c := c) query
        (RepositorySettings.mem_fields_of_surroundings hs hentity hknows)
      refine ⟨⟨name, some identifier⟩, ?_⟩
      show (do
        let identifier ← (s.source c query).fieldIdentifier field
        pure (⟨name, some identifier⟩ : Operand)) = _
      rw [hidentifier]
      rfl

/-- The outcome of a candidate is what its generation does nothing but answer with. -/
theorem generate_eq {outcome : Outcome Code}
    (h : (s.source c query).Generates s.context c.signature (query.map (·.toQuery)) outcome) :
    s.generate c query = outcome := by
  show ((generateMethod s.context (s.source c query).emitter c.signature
    (query.map (·.toQuery))).run ()).1 = _
  rw [h.runs (Emitter.Follows.refl _)]
  rfl

/-- A candidate that has a plan gets a body for it. -/
theorem exists_asking_body {settings : RepositorySettings} {plan : Plan}
    (hs : settings.surroundings = .ok s) (hc : c.FromSource)
    (hplan : (planMethod s.context c.signature (query.map (·.toQuery))).value? = some plan) :
    ∃ body, (s.source c query).Asks plan body ∧
      (s.source c query).Generates s.context c.signature (query.map (·.toQuery))
        (.ofIssues body (planMethod s.context c.signature (query.map (·.toQuery))).issues) :=
  (covers query hs hc (planMethod_scoped hplan)).exists_outcome hplan

theorem exists_body_of_plan {settings : RepositorySettings} {plan : Plan}
    (hs : settings.surroundings = .ok s) (hc : c.FromSource)
    (hplan : (planMethod s.context c.signature (query.map (·.toQuery))).value? = some plan) :
    ∃ body, body.query?.map (·.sql) = some plan.sql ∧
      (s.source c query).Generates s.context c.signature (query.map (·.toQuery))
        (.ofIssues body (planMethod s.context c.signature (query.map (·.toQuery))).issues) := by
  obtain ⟨body, hasks, hgenerates⟩ := exists_asking_body query hs hc hplan
  exact ⟨body, hasks.sql, hgenerates⟩

/-- The generation of a candidate does nothing but answer, whatever was planned. -/
theorem generates {settings : RepositorySettings} (hs : settings.surroundings = .ok s)
    (hc : c.FromSource) :
    (s.source c query).Generates s.context c.signature (query.map (·.toQuery))
      (s.generate c query) := by
  cases hplan : (planMethod s.context c.signature (query.map (·.toQuery))).value? with
  | some plan =>
      obtain ⟨body, -, hgenerates⟩ := exists_body_of_plan query hs hc hplan
      rw [generate_eq query hgenerates]
      exact hgenerates
  | none =>
      obtain ⟨outcome, hgenerates⟩ := (s.source c query).exists_outcome_of_no_plan hplan
      rw [generate_eq query hgenerates]
      exact hgenerates

/-- The log of failed steps stays empty, whatever is generated. -/
theorem generate_noting {settings : RepositorySettings} (hs : settings.surroundings = .ok s)
    (hc : c.FromSource) :
    (generateMethod s.context (s.source c query).emitter.noting c.signature
      (query.map (·.toQuery))).run ((), []) = (s.generate c query, (), []) := by
  rw [(generates query hs hc).runs (Emitter.noting_follows _)]
  rfl

/-! ### The emitter of a block -/

/-- So does that of the emitter of a block which is switched to the source of a candidate. -/
theorem blockEmitter_noting {settings : RepositorySettings} (hs : settings.surroundings = .ok s)
    (hc : c.FromSource) :
    (generateMethod s.context CodeSource.blockEmitter.noting c.signature
      (query.map (·.toQuery))).run (some (s.source c query), []) =
        (s.generate c query, some (s.source c query), []) := by
  have hruns : RunsAs (Prod.map (fun _ => some (s.source c query)) id)
      (generateMethod s.context CodeSource.blockEmitter.noting c.signature
        (query.map QuerySettings.toQuery))
      (generateMethod s.context (s.source c query).emitter.noting c.signature
        (query.map QuerySettings.toQuery)) :=
    (s.source c query).blockEmitter_mimics.noting.generateMethod _ _
  have hrun := hruns ((), [])
  rw [generate_noting query hs hc] at hrun
  exact hrun

/-- **Whatever the emitter of a block was switched to before, a candidate gets the outcome of an
emitter of its own.**  What was noted of other items stays. -/
theorem generateNext_run (s : Surroundings) (c : Candidate) (query : Option QuerySettings)
    (p : Progress) :
    (s.generateNext c query).run p =
      (s.generate c query, { p with current := some (s.source c query) }) := by
  have hruns : (generateMethod s.context CodeSource.blockEmitter c.signature
        (query.map QuerySettings.toQuery)).run (some (s.source c query)) =
      (s.generate c query, some (s.source c query)) :=
    (s.source c query).blockEmitter_mimics.generateMethod c.signature _ ()
  show (((generateMethod s.context CodeSource.blockEmitter c.signature
      (query.map QuerySettings.toQuery)).run (some (s.source c query))).1,
    { p with current := ((generateMethod s.context CodeSource.blockEmitter c.signature
      (query.map QuerySettings.toQuery)).run (some (s.source c query))).2 }) = _
  rw [hruns]

end Surroundings

/-! ### Issues of the emitter -/

/-- Whether an issue says that a step of the emitter failed. -/
def Issue.isEmitterFailure : Issue → Bool
  | .emissionFailed _ stage _ =>
    stage == "emit" || stage == "placeholder" || "exists ".toList.isPrefixOf stage.toList
  | _ => false

theorem not_isEmitterFailure_of_fromPlanning {method : String} {issue : Issue}
    (h : issue.FromPlanning method) : issue.isEmitterFailure = false := by
  cases issue with
  | emissionFailed m stage reason =>
      rw [h.2]
      rfl
  | _ => rfl

theorem not_isEmitterFailure_of_ofMethod {m : Syntax.Method} {renames : List (Option String)}
    {issue : Issue} (h : Candidate.ofMethod m renames = .error issue) :
    issue.isEmitterFailure = false := by
  rw [Candidate.ofMethod] at h
  split at h
  · rw [← Except.error.inj h]
    rfl
  · split at h
    · rw [← Except.error.inj h]
      rfl
    · split at h
      · rw [← Except.error.inj h]
        rfl
      · split at h
        · rw [← Except.error.inj h]
          rfl
        · simp at h

theorem Surroundings.not_isEmitterFailure_of_expandBody {settings : RepositorySettings}
    {s : Surroundings} (hs : settings.surroundings = .ok s) (m : Syntax.Method)
    (query : Option QuerySettings) (renames : List (Option String)) :
    ∀ issue ∈ (s.expandBody m query renames).issues, issue.isEmitterFailure = false := by
  intro issue h
  rw [expandBody] at h
  split at h
  · simp at h
  · split at h
    · rename_i hrefused
      rw [List.mem_singleton.mp h]
      exact not_isEmitterFailure_of_ofMethod hrefused
    · rename_i c hc
      have hgenerates := generates query hs (Candidate.fromSource_of_ofMethod hc)
      simp only at h
      rw [hgenerates.issues] at h
      exact not_isEmitterFailure_of_fromPlanning (fromPlanning_of_planMethod h)

/-- **Generation from accepted settings never fails in the emitter.**  The log of failed steps
stays empty for every candidate and every query, for an emitter of its own as for the emitter of
a block, which is switched to it from whatever came before.  No expansion reports a failure of
the emitter, and an existence method that has a plan is done in the first of its ways. -/
theorem RepositorySettings.emitter_never_fails {settings : RepositorySettings}
    {s : Surroundings} (hs : settings.surroundings = .ok s) :
    (∀ m renames c query, Candidate.ofMethod m renames = .ok c →
      (generateMethod s.context (s.source c query).emitter.noting c.signature
        (query.map (·.toQuery))).run ((), []) = (s.generate c query, (), []) ∧
      (generateMethod s.context CodeSource.blockEmitter.noting c.signature
        (query.map (·.toQuery))).run (some (s.source c query), []) =
          (s.generate c query, some (s.source c query), []) ∧
      ∀ p, (s.generateNext c query).run p =
        (s.generate c query, { p with current := some (s.source c query) })) ∧
    (∀ m e, s.expandMethod m = .ok e → ∀ issue ∈ e.issues, issue.isEmitterFailure = false) ∧
    (∀ m renames c plan, Candidate.ofMethod m renames = .ok c →
      (MethodName.ofText c.signature.name).operation = .exist →
      (planDerived s.context c.signature).value? = some plan →
      ∃ entity template body, s.context.entity = some entity ∧
        entity.existsTemplate s.context.naming (MethodName.ofText c.signature.name) .booleanCase =
          .ok template ∧
        s.generate c none = .ofIssues body (planDerived s.context c.signature).issues ∧
        body.query?.map (·.sql) = some template.sql) := by
  refine ⟨?_, ?_, ?_⟩
  · intro m renames c query hc
    have hsource := Candidate.fromSource_of_ofMethod hc
    exact ⟨Surroundings.generate_noting query hs hsource,
      Surroundings.blockEmitter_noting query hs hsource, s.generateNext_run c query⟩
  · intro m e he
    obtain ⟨⟨query, renames⟩, -, he⟩ := exists_of_bind_eq_ok he
    rw [← Except.ok.inj he]
    exact Surroundings.not_isEmitterFailure_of_expandBody hs _ query renames
  · intro m renames c plan hc hop hplan
    have hexist : emittedOperation c.signature none = some .exist := congrArg some hop
    obtain ⟨entity, template, hentity, htemplate, hsql, -⟩ := existsPlan_booleanCase hexist hplan
    obtain ⟨body, hquery, hgenerates⟩ :=
      Surroundings.exists_body_of_plan none hs (Candidate.fromSource_of_ofMethod hc) hplan
    have hgenerate := Surroundings.generate_eq none hgenerates
    rw [hsql] at hquery
    exact ⟨entity, template, body, hentity, htemplate, hgenerate, hquery⟩

/-- A method `exists_by_user_name` over the fields `id` and `user_name` asks for a boolean. -/
theorem RepositorySettings.emitter_never_fails_exists_by_user_name :
    let settings : RepositorySettings :=
      { defaults with table := some "users", fields := [⟨false, ["id"]⟩, ⟨false, ["user_name"]⟩] }
    let s : Surroundings :=
      { executor := "executor", fields := [("id", "id"), ("userName", "user_name")]
        context := ⟨some ⟨"users", ["id", "userName"], some "id",
          [("userName", "user_name"), ("id", "id")]⟩, .snake, false, false⟩ }
    let m : Syntax.Method :=
      { attributes := [], marks := [], body := []
        header :=
          { marks := [.word "async"], name := "exists_by_user_name", generics := ⟨[], []⟩
            inputs := [(.receiver [] [.word "self"], true),
              (.typed [] ⟨[.word "name"], some "name"⟩ (.path (.ofName "String")), false)]
            result := some (.path (.mk [] "Result" (.angled []
              [.type (.path (.ofName "bool")) true, .type (.path (.ofName "SqlError")) false]))) } }
    let c : Candidate :=
      { signature := ⟨"existsByUserName", [⟨"name", none, .scalar .text "String"⟩],
          .scalar .bool "bool", false⟩
        label := "exists_by_user_name", arguments := ["name"], okType := .path (.ofName "bool") }
    settings.surroundings = .ok s ∧ Candidate.ofMethod m [none] = .ok c ∧
      (generateMethod s.context (s.source c none).emitter.noting c.signature none).run ((), []) =
        (s.generate c none, (), []) ∧
      (s.generateNext c none).run .start =
        (s.generate c none, ⟨some (s.source c none), [], []⟩) ∧
      (∃ e, s.expandMethod m = .ok e ∧ ∀ issue ∈ e.issues, issue.isEmitterFailure = false) ∧
      ∃ body, s.generate c none = .clean body ∧ body.query?.map (·.sql) =
        some "SELECT CASE WHEN COUNT(*) > 0 THEN TRUE ELSE FALSE END FROM users WHERE user_name = ?" := by
  intro settings s m c
  have hs : settings.surroundings = .ok s := rfl
  have hc : Candidate.ofMethod m [none] = .ok c := by
    subst m
    rfl
  obtain ⟨hruns, hexpand, hexists⟩ := emitter_never_fails hs
  obtain ⟨halone, -, hnext⟩ := hruns m [none] c none hc
  have hsome : (planDerived s.context c.signature).value?.isSome = true := by decide +kernel
  obtain ⟨plan, hplan⟩ := Option.isSome_iff_exists.mp hsome
  have hissues : (planDerived s.context c.signature).issues = [] := by decide +kernel
  obtain ⟨entity, template, body, hentity, htemplate, hgenerate, hquery⟩ :=
    hexists m [none] c plan hc (by decide +kernel) hplan
  rw [hissues] at hgenerate
  refine ⟨hs, hc, halone, hnext .start, ⟨_, rfl, hexpand m _ rfl⟩, body, hgenerate, ?_⟩
  rw [hquery, ← Except.ok.inj htemplate, ← Option.some.inj hentity]
  decide +kernel

end QueryMethods
