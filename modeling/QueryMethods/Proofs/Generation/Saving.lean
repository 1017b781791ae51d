/-
What a save method stores, and what a record reads.

A repository lists its fields as identifiers.  On the way to a statement each is known by
its field name, and three tables are looked up by that name: the fields of the entity, the
columns pinned for them, and the identifiers that operands read.  A record reads each of its
fields under the identifier itself.

Two identifiers may share a field name, as `line1` and `line_1` do.  Both tables of pairs
then hold the pair of the last one, so a save stores that field in the place of each.  It
stores the listed fields in their order exactly if no two of them share a name, and then its
columns are those that a record with these fields reads.
-/
import Mathlib.Data.List.Nodup
import QueryMethods.Proofs.Generation.NoFailure
import QueryMethods.Proofs.Record.Initializers
import QueryMethods.Proofs.Sql.Slots

namespace QueryMethods

/-! ### Fields looked up by their names -/

/-- The last of the listed fields that have the name of a field. -/
def lastNamed (listed : List String) (f : String) : String :=
  (listed.reverse.find? (fun g => fieldName f == fieldName g)).getD f

/-- The fields that a save stores in the places of the listed ones. -/
def storedFields (listed : List String) : List String := listed.map (lastNamed listed)

theorem lookup_map_fieldName {α : Type} (value : String → α) (f : String) (fields : List String) :
    (fields.map (fun g => (fieldName g, value g))).lookup (fieldName f) =
      (fields.find? (fun g => fieldName f == fieldName g)).map value := by
  induction fields with
  | nil => rfl
  | cons g rest ih =>
      rw [List.map_cons, List.lookup_cons, List.find?_cons]
      cases fieldName f == fieldName g with
      | true => rfl
      | false => exact ih

section

variable {listed : List String} {f : String}

theorem find?_eq_some_lastNamed (hf : f ∈ listed) :
    listed.reverse.find? (fun g => fieldName f == fieldName g) = some (lastNamed listed f) := by
  have hsome : (listed.reverse.find? (fun g => fieldName f == fieldName g)).isSome = true :=
    List.find?_isSome.mpr ⟨f, List.mem_reverse.mpr hf, beq_self_eq_true _⟩
  obtain ⟨g, hg⟩ := Option.isSome_iff_exists.mp hsome
  rw [lastNamed, hg]
  rfl

theorem lastNamed_mem (hf : f ∈ listed) : lastNamed listed f ∈ listed :=
  List.mem_reverse.mp (List.mem_of_find?_eq_some (find?_eq_some_lastNamed hf))

theorem fieldName_lastNamed (hf : f ∈ listed) :
    fieldName (lastNamed listed f) = fieldName f := by
  have hname := List.find?_some (find?_eq_some_lastNamed hf)
  exact (eq_of_beq hname).symm

theorem lastNamed_congr {g : String} (hf : f ∈ listed) (hg : g ∈ listed)
    (h : fieldName f = fieldName g) : lastNamed listed f = lastNamed listed g := by
  have hfind := find?_eq_some_lastNamed hf
  rw [h, find?_eq_some_lastNamed hg] at hfind
  exact (Option.some.inj hfind).symm

/-- A table of pairs, the latest first, answers with the pair of the last field of a name. -/
theorem lookup_reverse_fieldName {α : Type} (value : String → α) (hf : f ∈ listed) :
    (listed.map (fun g => (fieldName g, value g))).reverse.lookup (fieldName f) =
      some (value (lastNamed listed f)) := by
  rw [← List.map_reverse, lookup_map_fieldName, find?_eq_some_lastNamed hf]
  rfl

theorem storedFields_eq_iff_forall :
    storedFields listed = listed ↔ ∀ f ∈ listed, lastNamed listed f = f := by
  have h := List.map_eq_map_iff (f := lastNamed listed) (l := listed) (g := id)
  rw [List.map_id] at h
  exact h

/-- Every listed field is stored in its own place exactly if no two share a name. -/
theorem storedFields_eq_iff (hdistinct : listed.Nodup) :
    storedFields listed = listed ↔ (listed.map fieldName).Nodup := by
  rw [storedFields_eq_iff_forall]
  constructor
  · intro hself
    refine List.Nodup.map_on ?_ hdistinct
    intro f hf g hg hname
    rw [← hself f hf, ← hself g hg]
    exact lastNamed_congr hf hg hname
  · intro hnames f hf
    exact List.inj_on_of_nodup_map hnames (lastNamed_mem hf) hf (fieldName_lastNamed hf)

end

/-! ### Surroundings with listed fields -/

/-- Surroundings whose entity is made of listed fields. -/
structure Surroundings.Lists (s : Surroundings) (table : String) (listed : List String)
    (entity : Entity) : Prop where
  entity_eq : s.context.entity = some entity
  table_eq : entity.table = table
  fields_eq : entity.fields = listed.map fieldName
  pinned_eq : entity.pinned =
    (listed.map (fun f => (fieldName f, s.context.naming.identifierColumn f))).reverse
  identifiers_eq : s.fields = listed.map (fun f => (fieldName f, f))
  nonempty : listed ≠ []

namespace RepositorySettings

variable {settings : RepositorySettings} {listed : List String}

theorem fieldNames_of_listed (h : settings.fields = listed.map (fun f => ⟨false, [f]⟩)) :
    settings.fieldNames = .ok (listed.map (fun f => (fieldName f, f))) := by
  rw [fieldNames, h]
  clear h
  induction listed with
  | nil => rfl
  | cons f rest ih =>
      rw [List.map_cons, List.mapM_cons, ih]
      rfl

theorem exists_lists {s : Surroundings} {table : String} (hs : settings.surroundings = .ok s)
    (htable : settings.tableName = some table)
    (hlisted : settings.fields = listed.map (fun f => ⟨false, [f]⟩)) :
    s.context.naming = settings.naming ∧ s.context.nativeOnly = settings.nativeOnly ∧
      ∃ entity, s.Lists table listed entity := by
  have hnames := fieldNames_of_listed hlisted
  obtain ⟨context, hcontext, hs⟩ := exists_of_bind_eq_ok hs
  obtain ⟨executor, -, hs⟩ := exists_of_bind_eq_ok hs
  obtain ⟨fields, hfields, hs⟩ := exists_of_bind_eq_ok hs
  obtain ⟨fields', entity, hfields', hnonempty, hkey, rfl⟩ := context_eq_ok htable hcontext
  rw [hnames] at hfields hfields'
  obtain rfl := Except.ok.inj hfields
  obtain rfl := Except.ok.inj hfields'
  obtain rfl := Except.ok.inj hs
  rw [entityOfFields_eq, List.map_map, List.map_map] at hkey
  have hne : listed ≠ [] := by
    rintro rfl
    simp at hnonempty
  refine ⟨rfl, rfl, entity, ?_⟩
  -- a given key changes none of what is listed
  rcases withGivenKey_eq_ok hkey with rfl | ⟨key, -, rfl⟩
  · exact ⟨rfl, rfl, rfl, rfl, rfl, hne⟩
  · exact ⟨rfl, rfl, rfl, rfl, rfl, hne⟩

end RepositorySettings

namespace Surroundings.Lists

variable {s : Surroundings} {table : String} {listed : List String} {entity : Entity}

/-- The columns of the entity are those of the fields that are stored. -/
theorem columns (h : s.Lists table listed entity) :
    entity.fields.map (entity.column s.context.naming) =
      (storedFields listed).map s.context.naming.identifierColumn := by
  rw [h.fields_eq, storedFields, List.map_map, List.map_map]
  refine List.map_congr_left ?_
  intro f hf
  show (entity.pinned.lookup (fieldName f)).getD _ = _
  rw [h.pinned_eq, lookup_reverse_fieldName _ hf]
  rfl

theorem insertTemplate_sql (h : s.Lists table listed entity) :
    (entity.insertTemplate s.context.naming).sql =
      "INSERT INTO " ++ table ++ " (" ++
        commaSeparated ((storedFields listed).map s.context.naming.identifierColumn) ++
        ") VALUES (" ++ commaSeparated (listed.map (fun _ => "?")) ++ ")" := by
  have hmarkers : entity.fields.map (fun _ => "?") = listed.map (fun _ => "?") := by
    rw [h.fields_eq, List.map_map]
    rfl
  rw [Entity.insertTemplate_sql, h.table_eq, hmarkers, h.columns]

theorem fieldIdentifier (h : s.Lists table listed entity) (c : Candidate)
    (query : Option QuerySettings) {f : String} (hf : f ∈ listed) :
    (s.source c query).fieldIdentifier (fieldName f) = .ok (lastNamed listed f) := by
  have hlookup : (s.source c query).fields.reverse.lookup (fieldName f) =
      some (lastNamed listed f) := by
    show s.fields.reverse.lookup (fieldName f) = _
    rw [h.identifiers_eq]
    exact lookup_reverse_fieldName (fun g => g) hf
  rw [CodeSource.fieldIdentifier, hlookup]

theorem operand (h : s.Lists table listed entity) {c : Candidate} {query : Option QuerySettings}
    {parameter argument : String}
    (hargument : (s.source c query).argument parameter = .ok argument) {f : String}
    (hf : f ∈ listed) (i : Nat) :
    (s.source c query).operand ⟨parameter, fieldName f, false, i, .field (fieldName f)⟩ =
      .ok ⟨argument, some (lastNamed listed f)⟩ := by
  rw [CodeSource.operand, hargument]
  show (do
    let identifier ← (s.source c query).fieldIdentifier (fieldName f)
    pure (⟨argument, some identifier⟩ : Operand)) = _
  rw [h.fieldIdentifier c query hf]
  rfl

/-- The operands of the fields of an argument are the stored fields, in order. -/
theorem operands (h : s.Lists table listed entity) {c : Candidate} {query : Option QuerySettings}
    {parameter argument : String}
    (hargument : (s.source c query).argument parameter = .ok argument) :
    (bindFields parameter (entity.fields.map .field)).map (s.source c query).operand =
      (storedFields listed).map (fun f => .ok ⟨argument, some f⟩) := by
  have hnumbered : (bindFields parameter (entity.fields.map .field)).map
      (s.source c query).operand =
      listed.zipIdx.map (fun fi => .ok ⟨argument, some (lastNamed listed fi.1)⟩) := by
    rw [bindFields, h.fields_eq, List.zipIdx_map, List.zipIdx_map, List.map_map, List.map_map,
      List.map_map]
    refine List.map_congr_left ?_
    intro fi hfi
    exact h.operand hargument (List.fst_mem_of_mem_zipIdx hfi) fi.2
  -- an operand does not read the number of its binding, so the numbers are dropped again
  have hplain : listed.zipIdx.map (fun fi => .ok ⟨argument, some (lastNamed listed fi.1)⟩) =
      (listed.zipIdx.map Prod.fst).map
        (fun f => (.ok ⟨argument, some (lastNamed listed f)⟩ : Except CodeError Operand)) := by
    rw [List.map_map]
    rfl
  rw [hnumbered, hplain, List.zipIdx_map_fst, storedFields, List.map_map]
  rfl

end Surroundings.Lists

/-! ### The plan of a save -/

theorem planDerived_of_save {context : Context} {entity : Entity} {signature : Signature}
    {parameter : Parameter} (hbody : signature.hasBody = false)
    (hentity : context.entity = some entity) (hderived : context.nativeOnly = false)
    (hsave : (MethodName.ofText signature.name).operation = .save)
    (hfields : entity.fields.isEmpty = false) (hparameters : signature.parameters = [parameter]) :
    (planDerived context signature).value? =
      some ((entity.insertTemplate context.naming).plan signature
        (bindFields parameter.name (entity.fields.map .field)) (autoMapping signature)) := by
  have htemplate : entity.template context.naming (MethodName.ofText signature.name) =
      .ok (entity.insertTemplate context.naming) := by
    rw [Entity.template, hsave, hfields]
    rfl
  have hbind : bindTemplate signature .save (entity.insertTemplate context.naming) =
      .ok (bindFields parameter.name (entity.fields.map .field), []) := by
    show bindEntity _ _ _ = _
    rw [hparameters]
    rfl
  have hconvention : ¬((MethodName.ofText signature.name).operation = .unknown ∨
      context.nativeOnly = true) := by
    rw [hsave, hderived]
    decide
  have hplanned : planDerived context signature =
      planFromEntity context entity signature (MethodName.ofText signature.name) := by
    rw [planDerived, if_neg (by rw [hbody]; decide), hentity]
    exact if_neg hconvention
  rw [hplanned, planFromEntity, htemplate]
  simp only [hsave, hbind]
  exact Outcome.value?_ofIssues

/-! ### What a record reads -/

theorem gather_map_ok {α β ε : Type} (f : α → β) (l : List α) :
    gather (l.map (fun a => (.ok (f a) : Except (List ε) β))) = .ok (l.map f) := by
  rw [gather_eq_ok, List.map_map]
  rfl

namespace Record

open Syntax (Field TypeDeclaration)

/-- The settings of a field that has none of its own. -/
def plainSettings : FieldSettings := ⟨none, none, false, false⟩

theorem ofField_of_unmarked {f : Field}
    (h : ∀ a ∈ f.attributes, a.path.isName recordAttribute = false) :
    FieldSettings.ofField f = .ok plainSettings := by
  have hnone : f.attributes.filter (·.path.isName recordAttribute) = [] := by
    rw [List.filter_eq_nil_iff]
    intro a ha
    rw [h a ha]
    decide
  rw [FieldSettings.ofField, settingsOfAttributes, hnone]
  rfl

/-- A field that is read in the column of its identifier. -/
def plainField (naming : Naming) (f : Field) : RecordField :=
  ⟨f.name.getD "", f.type, .column (naming.identifierColumn (f.name.getD ""))⟩

theorem fieldsOf_plainSettings (naming : Naming) (fields : List Field) :
    fieldsOf naming (fields.map (fun f => (f, plainSettings))) =
      .ok (fields.map (plainField naming)) := by
  rw [fieldsOf, List.map_map, ← gather_map_ok]
  rfl

/-- A record whose fields have no settings reads each in the column of its identifier. -/
theorem ofDeclaration_of_unmarked {d : TypeDeclaration} {naming : Naming} {fields : List Field}
    {names : List String} (hnaming : RecordSettings.ofAttributes d.attributes = .ok ⟨naming⟩)
    (hbody : d.body = .named fields) (hnames : fields.map (·.name) = names.map some)
    (hunmarked : ∀ f ∈ fields, ∀ a ∈ f.attributes, a.path.isName recordAttribute = false) :
    ∃ r, ofDeclaration d = .ok r ∧ r.fields.map (fun f => (f.name, f.source)) =
      names.map (fun f => (f, .column (naming.identifierColumn f))) := by
  have hsettled : settledFields d.body = .ok (fields.map (fun f => (f, plainSettings))) := by
    rw [hbody, settledFields, ← gather_map_ok]
    refine congrArg gather (List.map_congr_left ?_)
    intro f hf
    rw [ofField_of_unmarked (hunmarked f hf)]
    rfl
  refine ⟨⟨d.name, d.generics, fields.map (plainField naming)⟩, ?_, ?_⟩
  · rw [ofDeclaration_of_settled hbody hnaming hsettled, fieldsOf_plainSettings]
    rfl
  · have hnamed : (fields.map (plainField naming)).map (fun f => (f.name, f.source)) =
        (fields.map (·.name)).map (fun name =>
          (name.getD "", FieldSource.column (naming.identifierColumn (name.getD "")))) := by
      rw [List.map_map, List.map_map]
      rfl
    rw [hnamed, hnames, List.map_map]
    rfl

end Record

/-! ### Saves -/

namespace Candidate

/-- The parameter of a method with one argument. -/
theorem exists_parameter_of_arguments {m : Syntax.Method} {rename : Option String} {c : Candidate}
    {argument : String} (hc : ofMethod m [rename] = .ok c) (harguments : c.arguments = [argument]) :
    ∃ shape, c.signature.parameters = [⟨plainName argument, rename, shape⟩] := by
  obtain ⟨inputs, okType, rfl⟩ := ofMethod_eq_ok hc
  obtain ⟨⟨name, type⟩, rfl, rfl⟩ := List.map_eq_singleton_iff.mp harguments
  exact ⟨type.shape, rfl⟩

end Candidate

namespace Surroundings

variable {s : Surroundings} {c : Candidate}

theorem argument_of_arguments (query : Option QuerySettings) {argument : String}
    (h : c.arguments = [argument]) :
    (s.source c query).argument (plainName argument) = .ok argument := by
  have hfind : (s.source c query).candidate.arguments.find?
      (fun name => plainName name == plainName argument) = some argument := by
    show c.arguments.find? _ = _
    rw [h, List.find?_cons, beq_self_eq_true]
  rw [CodeSource.argument, hfind]

/-- An empty body is replaced by the one that is generated. -/
theorem expandBody_of_value? {m : Syntax.Method} {renames : List (Option String)} {body : Code}
    (hc : Candidate.ofMethod m renames = .ok c) (hempty : m.body = [])
    (hvalue : (s.generate c none).value? = some body) :
    (s.expandBody m none renames).body = .generated body := by
  rw [expandBody, hempty, if_neg (by decide), hc]
  show NewBody.ofOutcome m (s.generate c none) = _
  rw [NewBody.ofOutcome, hvalue]

/-- The body of a save makes one query: it stores the stored fields of its argument in their
columns. -/
theorem Lists.exists_saving_body {settings : RepositorySettings} {m : Syntax.Method}
    {rename : Option String} {table argument : String} {listed : List String} {entity : Entity}
    (h : s.Lists table listed entity) (hs : settings.surroundings = .ok s)
    (hderived : s.context.nativeOnly = false) (hc : Candidate.ofMethod m [rename] = .ok c)
    (hempty : m.body = []) (hsave : (MethodName.ofText c.signature.name).operation = .save)
    (harguments : c.arguments = [argument]) :
    ∃ body q, (s.expandBody m none [rename]).body = .generated body ∧ body.query? = some q ∧
      q.style = .positional ∧ q.sql = (entity.insertTemplate s.context.naming).sql ∧
      q.operands.map (·.2) = (storedFields listed).map (fun f => ⟨argument, some f⟩) := by
  obtain ⟨shape, hparameters⟩ := Candidate.exists_parameter_of_arguments hc harguments
  have hbody : c.signature.hasBody = false := by
    rw [Candidate.hasBody_of_ofMethod hc, hempty]
    rfl
  have hfields : entity.fields.isEmpty = false := by
    rw [h.fields_eq, List.isEmpty_map]
    exact List.isEmpty_eq_false_iff.mpr h.nonempty
  have hplan := planDerived_of_save hbody h.entity_eq hderived hsave hfields hparameters
  obtain ⟨body, ⟨call, q, hq, hquery⟩, hgenerates⟩ :=
    exists_asking_body none hs (Candidate.fromSource_of_ofMethod hc) hplan
  obtain ⟨hsql, hstyle, -⟩ := CodeSource.query_eq_ok hq
  refine ⟨body, q, expandBody_of_value? hc hempty ?_, hquery, hstyle, hsql, ?_⟩
  · rw [generate_eq none hgenerates, Outcome.value?_ofIssues]
  · have hoperands : (q.operands.map (·.2)).map (Except.ok : Operand → Except CodeError Operand) =
        ((storedFields listed).map (fun f => ⟨argument, some f⟩)).map Except.ok := by
      rw [List.map_map, List.map_map]
      exact (CodeSource.operands_of_query_eq_ok hq).trans
        (h.operands (argument_of_arguments none harguments))
    exact (List.map_inj_right (fun _ _ => Except.ok.inj)).mp hoperands

end Surroundings

/-- **A save stores what a record reads, field by field, exactly if no two fields share a
name.**  Its columns and its operands are those of the stored fields, one for each listed field;
a record with the listed fields reads each of them in its own column. -/
theorem RepositorySettings.save_stores_listed_iff {settings : RepositorySettings}
    {s : Surroundings} {m : Syntax.Method} {rename : Option String} {c : Candidate}
    {table argument : String} {listed : List String} (hs : settings.surroundings = .ok s)
    (hlisted : settings.fields = listed.map (fun f => ⟨false, [f]⟩)) (hdistinct : listed.Nodup)
    (htable : settings.tableName = some table) (hderived : settings.nativeOnly = false)
    (hc : Candidate.ofMethod m [rename] = .ok c) (hempty : m.body = [])
    (hsave : (MethodName.ofText c.signature.name).operation = .save)
    (harguments : c.arguments = [argument]) :
    (∃ body q, (s.expandBody m none [rename]).body = .generated body ∧ body.query? = some q ∧
      q.style = .positional ∧
      q.sql = "INSERT INTO " ++ table ++ " (" ++
        commaSeparated ((storedFields listed).map settings.naming.identifierColumn) ++
        ") VALUES (" ++ commaSeparated (listed.map (fun _ => "?")) ++ ")" ∧
      q.operands.map (·.2) = (storedFields listed).map (fun f => ⟨argument, some f⟩)) ∧
    (storedFields listed = listed ↔ (listed.map fieldName).Nodup) ∧
    ∀ (d : Syntax.TypeDeclaration) (fields : List Syntax.Field),
      RecordSettings.ofAttributes d.attributes = .ok ⟨settings.naming⟩ →
      d.body = .named fields → fields.map (·.name) = listed.map some →
      (∀ f ∈ fields, ∀ a ∈ f.attributes, a.path.isName recordAttribute = false) →
      ∃ r, Record.ofDeclaration d = .ok r ∧ r.fields.map (fun f => (f.name, f.source)) =
        listed.map (fun f => (f, .column (settings.naming.identifierColumn f))) := by
  obtain ⟨hnaming, hnative, entity, hlists⟩ := exists_lists hs htable hlisted
  refine ⟨?_, storedFields_eq_iff hdistinct, ?_⟩
  · obtain ⟨body, q, hbody, hquery, hstyle, hsql, hoperands⟩ :=
      hlists.exists_saving_body hs (hnative.trans hderived) hc hempty hsave harguments
    refine ⟨body, q, hbody, hquery, hstyle, ?_, hoperands⟩
    rw [hsql, hlists.insertTemplate_sql, hnaming]
  · intro d fields hattributes hbody hnames hunmarked
    exact Record.ofDeclaration_of_unmarked hattributes hbody hnames hunmarked

/-- A method `save` over the fields `id` and `user_name` stores both, and a record `User` reads
both. -/
theorem RepositorySettings.save_stores_listed_iff_user_name :
    let settings : RepositorySettings :=
      { defaults with table := some "users", fields := [⟨false, ["id"]⟩, ⟨false, ["user_name"]⟩] }
    let s : Surroundings :=
      { executor := "executor", fields := [("id", "id"), ("userName", "user_name")]
        context := ⟨some ⟨"users", ["id", "userName"], some "id",
          [("userName", "user_name"), ("id", "id")]⟩, .snake, false, false⟩ }
    let m : Syntax.Method :=
      { attributes := [], marks := [], body := []
        header :=
          { marks := [.word "async"], name := "save", generics := ⟨[], []⟩
            inputs := [(.receiver [] [.word "self"], true),
              (.typed [] ⟨[.word "user"], some "user"⟩ (.path (.ofName "User")), false)]
            result := some (.path (.mk [] "Result" (.angled []
              [.type .unit true, .type (.path (.ofName "SqlError")) false]))) } }
    let c : Candidate :=
      { signature := ⟨"save", [⟨"user", none, .named "User"⟩], .unit, false⟩
        label := "save", arguments := ["user"], okType := .unit }
    let d : Syntax.TypeDeclaration :=
      { attributes := [], name := "User", generics := ⟨[], []⟩
        body := .named [⟨[], some "id", .path (.ofName "i64")⟩,
          ⟨[], some "user_name", .path (.ofName "String")⟩] }
    settings.surroundings = .ok s ∧ Candidate.ofMethod m [none] = .ok c ∧
      (∃ body q, (s.expandBody m none [none]).body = .generated body ∧ body.query? = some q ∧
        q.sql = "INSERT INTO users (id, user_name) VALUES (?, ?)" ∧
        q.operands.map (·.2) = [⟨"user", some "id"⟩, ⟨"user", some "user_name"⟩]) ∧
      ∃ r, Record.ofDeclaration d = .ok r ∧ r.fields.map (fun f => (f.name, f.source)) =
        [("id", .column "id"), ("user_name", .column "user_name")] := by
  intro settings s m c d
  have hs : settings.surroundings = .ok s := rfl
  have hc : Candidate.ofMethod m [none] = .ok c := by
    subst m
    rfl
  have hlisted : settings.fields = ["id", "user_name"].map (fun f => ⟨false, [f]⟩) := rfl
  have hsave : (MethodName.ofText "save").operation = .save := by decide
  have htable : settings.tableName = some "users" := rfl
  have hderived : settings.nativeOnly = false := rfl
  obtain ⟨⟨body, q, hbody, hquery, -, hsql, hoperands⟩, -, hrecord⟩ :=
    save_stores_listed_iff hs hlisted (by decide) htable hderived hc rfl hsave rfl
  refine ⟨hs, hc, ⟨body, q, hbody, hquery, ?_, ?_⟩, ?_⟩
  · rw [hsql]
    decide +kernel
  · rw [hoperands]
    decide +kernel
  · exact hrecord d _ rfl rfl rfl (by decide)

/-- Of the fields `line1` and `line_1`, which share the name `line1`, a save stores the second
one twice and the first one never, while a record reads both. -/
theorem RepositorySettings.save_stores_shared_name_twice :
    let settings : RepositorySettings :=
      { defaults with
        table := some "addresses", fields := [⟨false, ["line1"]⟩, ⟨false, ["line_1"]⟩] }
    let m : Syntax.Method :=
      { attributes := [], marks := [], body := []
        header :=
          { marks := [.word "async"], name := "save", generics := ⟨[], []⟩
            inputs := [(.receiver [] [.word "self"], true),
              (.typed [] ⟨[.word "address"], some "address"⟩ (.path (.ofName "Address")), false)]
            result := some (.path (.mk [] "Result" (.angled []
              [.type .unit true, .type (.path (.ofName "SqlError")) false]))) } }
    let d : Syntax.TypeDeclaration :=
      { attributes := [], name := "Address", generics := ⟨[], []⟩
        body := .named [⟨[], some "line1", .path (.ofName "String")⟩,
          ⟨[], some "line_1", .path (.ofName "String")⟩] }
    ∃ s body q r, settings.surroundings = .ok s ∧
      (s.expandBody m none [none]).body = .generated body ∧ body.query? = some q ∧
      q.sql = "INSERT INTO addresses (line_1, line_1) VALUES (?, ?)" ∧
      q.operands.map (·.2) = [⟨"address", some "line_1"⟩, ⟨"address", some "line_1"⟩] ∧
      Record.ofDeclaration d = .ok r ∧ r.fields.map (fun f => (f.name, f.source)) =
        [("line1", .column "line1"), ("line_1", .column "line_1")] := by
  intro settings m d
  have hlisted : settings.fields = ["line1", "line_1"].map (fun f => ⟨false, [f]⟩) := rfl
  have hsave : (MethodName.ofText "save").operation = .save := by decide
  obtain ⟨s, hs⟩ : ∃ s, settings.surroundings = .ok s := ⟨_, rfl⟩
  obtain ⟨hnaming, hnative, entity, hlists⟩ := exists_lists hs rfl hlisted
  let c : Candidate :=
    { signature := ⟨"save", [⟨"address", none, .named "Address"⟩], .unit, false⟩
      label := "save", arguments := ["address"], okType := .unit }
  have hc : Candidate.ofMethod m [none] = .ok c := by
    subst m
    rfl
  obtain ⟨body, q, hbody, hquery, -, hsql, hoperands⟩ :=
    hlists.exists_saving_body hs hnative hc rfl hsave rfl
  obtain ⟨r, hr, hread⟩ : ∃ r, Record.ofDeclaration d = .ok r ∧
      r.fields.map (fun f => (f.name, f.source)) = ["line1", "line_1"].map (fun f =>
        (f, .column (Naming.snake.identifierColumn f))) :=
    Record.ofDeclaration_of_unmarked rfl rfl rfl (by decide)
  refine ⟨s, body, q, r, hs, hbody, hquery, ?_, ?_, hr, hread⟩
  · rw [hsql, hlists.insertTemplate_sql, hnaming]
    decide +kernel
  · rw [hoperands]
    decide +kernel

end QueryMethods
