/-
What a method that stores an entity binds.

A save writes every field and an update every field but the key, which picks the row.  Three lists
are made of the fields for each of them: the columns, the markers and the bindings.  They have to
line up, since a value goes to the marker with its number and nothing else ties it to a column.

`ReadsInOrder` says what bindings do: each fills the slot with its number from the field that the
slot is about, and all read one parameter.  The slots of an insertion are the fields as they are
declared; those of an update are the fields without the key and then the key, so they are the
fields in another order as long as no field is declared twice and the key is one of them.
-/
import Mathlib.Data.List.Nodup
import QueryMethods.Proofs.Sql.Slots
import QueryMethods.Binding

namespace QueryMethods

/-! ### Bindings of fields -/

/-- Bindings fill slots in order, each with the field of one parameter that the slot is about. -/
structure ReadsInOrder (parameter : String) (slots : List Slot) (bindings : List Binding) :
    Prop where
  count : bindings.length = slots.length
  each : ∀ (i : Nat) (b : Binding), bindings[i]? = some b → ∃ slot, slots[i]? = some slot ∧
    b.index = i ∧ b.parameter = parameter ∧ b.source = .field slot.fieldName

theorem readsInOrder_bindFields (parameter : String) (slots : List Slot) :
    ReadsInOrder parameter slots (bindFields parameter slots) := by
  refine ⟨by simp [bindFields], ?_⟩
  intro i b hb
  rw [bindFields, List.getElem?_map, List.getElem?_zipIdx, Option.map_map,
    Option.map_eq_some_iff] at hb
  obtain ⟨slot, hslot, rfl⟩ := hb
  exact ⟨slot, hslot, Nat.zero_add i, rfl, rfl⟩

/-- What bindings read of slots that are about fields. -/
theorem source_bindFields (parameter : String) (fields : List String) :
    (bindFields parameter (fields.map .field)).map (·.source) = fields.map .field := by
  have hread : (bindFields parameter (fields.map .field)).map (·.source) =
      ((fields.map Slot.field).zipIdx.map Prod.fst).map (fun slot => .field slot.fieldName) := by
    rw [bindFields, List.map_map, List.map_map]
    rfl
  rw [hread, List.zipIdx_map_fst, List.map_map]
  rfl

/-- The first parameter is the entity; more of them are an issue and change no binding. -/
theorem bindEntity_cons (method : String) (template : Template) (entity : Parameter)
    (others : List Parameter) :
    bindEntity method template (entity :: others) =
      .ok (bindFields entity.name template.slots,
        if others = [] then [] else [.parameterCount method 1 (others.length + 1)]) := by
  cases others with
  | nil => rfl
  | cons other others => rfl

namespace Entity

variable {e : Entity} {naming : Naming} {name : MethodName}

/-! ### The fields of an update -/

theorem mem_nonKeyFields {f : String} :
    f ∈ e.nonKeyFields ↔ f ∈ e.fields ∧ e.key ≠ some f := by
  rw [nonKeyFields, List.mem_filter, bne_iff_ne]

theorem nonKeyFields_eq_nil_iff :
    e.nonKeyFields = [] ↔ ∀ f ∈ e.fields, e.key = some f := by
  rw [List.eq_nil_iff_forall_not_mem]
  constructor
  · intro hnone f hf
    refine Decidable.byContradiction (fun hkey => ?_)
    exact hnone f (mem_nonKeyFields.mpr ⟨hf, hkey⟩)
  · intro hall f hf
    obtain ⟨hmem, hkey⟩ := mem_nonKeyFields.mp hf
    exact hkey (hall f hmem)

/-- The fields without the key, and then the key, are the fields in another order. -/
theorem nonKeyFields_append_key_perm (hdistinct : e.fields.Nodup)
    (hkey : ∀ key, e.key = some key → key ∈ e.fields) :
    (e.nonKeyFields ++ e.key.toList).Perm e.fields := by
  have hnodup : (e.nonKeyFields ++ e.key.toList).Nodup := by
    refine List.nodup_append.mpr ⟨hdistinct.filter _, ?_, ?_⟩
    · cases e.key with
      | none => exact List.nodup_nil
      | some key => exact List.nodup_singleton key
    · rintro f hf key hkeyed rfl
      exact (mem_nonKeyFields.mp hf).2 (Option.mem_toList.mp hkeyed)
  refine (List.perm_ext_iff_of_nodup hnodup hdistinct).mpr (fun f => ?_)
  rw [List.mem_append, mem_nonKeyFields, Option.mem_toList]
  constructor
  · rintro (⟨hmem, -⟩ | hf)
    · exact hmem
    · exact hkey f hf
  · intro hmem
    by_cases hf : e.key = some f
    · exact Or.inr hf
    · exact Or.inl ⟨hmem, hf⟩

/-! ### The templates -/

theorem template_of_save (h : name.operation = .save) :
    e.template naming name =
      if e.fields = [] then .error (.noFields name.text) else .ok (e.insertTemplate naming) := by
  rw [template, h]
  simp only [List.isEmpty_iff]

theorem template_of_update (h : name.operation = .update) :
    e.template naming name =
      if e.fields = [] then .error (.noFields name.text)
      else if ∀ f ∈ e.fields, e.key = some f then .error (.nothingToSet name.text)
      else .ok (e.updateTemplate naming) := by
  rw [template, h]
  simp only [List.isEmpty_iff, nonKeyFields_eq_nil_iff]

theorem slots_updateTemplate :
    (e.updateTemplate naming).slots = (e.nonKeyFields ++ e.key.toList).map .field :=
  List.map_append.symm

/-! ### What is stored -/

variable (e naming)

/-- A statement with its bindings inserts all fields: columns, markers and values in the order
of the fields. -/
structure Inserts (parameter : String) (template : Template) (bindings : List Binding) :
    Prop where
  sql : template.sql = "INSERT INTO " ++ e.table ++ " (" ++
    commaSeparated (e.fields.map (e.column naming)) ++ ") VALUES (" ++
    commaSeparated (e.fields.map (fun _ => "?")) ++ ")"
  reads : ReadsInOrder parameter template.slots bindings
  order : bindings.map (·.source) = e.fields.map .field

/-- A statement with its bindings sets some fields in the row with the key: those that are not
the key, in the order of the fields, and the key is bound last. -/
structure Updates (set : List String) (parameter : String) (template : Template)
    (bindings : List Binding) : Prop where
  sublist : set.Sublist e.fields
  mem_iff : ∀ f, f ∈ set ↔ f ∈ e.fields ∧ e.key ≠ some f
  sql : template.sql = "UPDATE " ++ e.table ++ " SET " ++
    commaSeparated (set.map (fun f => e.column naming f ++ " = ?")) ++
    match e.key with
    | some key => " WHERE " ++ (e.column naming key ++ " = ?")
    | none => ""
  reads : ReadsInOrder parameter template.slots bindings
  order : bindings.map (·.source) = (set ++ e.key.toList).map .field
  perm : (set ++ e.key.toList).Perm e.fields

variable {e naming}

theorem inserts_insertTemplate (parameter : String) :
    e.Inserts naming parameter (e.insertTemplate naming)
      (bindFields parameter (e.insertTemplate naming).slots) where
  sql := insertTemplate_sql
  reads := readsInOrder_bindFields parameter _
  order := source_bindFields parameter e.fields

theorem updates_updateTemplate (hdistinct : e.fields.Nodup)
    (hkey : ∀ key, e.key = some key → key ∈ e.fields) (parameter : String) :
    e.Updates naming e.nonKeyFields parameter (e.updateTemplate naming)
      (bindFields parameter (e.updateTemplate naming).slots) where
  sublist := List.filter_sublist
  mem_iff _ := mem_nonKeyFields
  sql := updateTemplate_sql
  reads := readsInOrder_bindFields parameter _
  order := by
    rw [slots_updateTemplate]
    exact source_bindFields parameter _
  perm := nonKeyFields_append_key_perm hdistinct hkey

/-- **A method that stores an entity binds every field once**, unless there is nothing to store.
A save binds the fields as they are declared; an update binds those that are not the key and
then the key, and it sets no key. -/
theorem stores_each_field_once (hdistinct : e.fields.Nodup)
    (hkey : ∀ key, e.key = some key → key ∈ e.fields) (naming : Naming) (method : String)
    (entity : Parameter) (others : List Parameter) (name : MethodName) :
    (name.operation = .save →
      (e.template naming name = .error (.noFields name.text) ↔ e.fields = []) ∧
      (e.fields ≠ [] → ∃ template bindings issues,
        e.template naming name = .ok template ∧
        bindEntity method template (entity :: others) = .ok (bindings, issues) ∧
        e.Inserts naming entity.name template bindings)) ∧
    (name.operation = .update →
      (e.template naming name = .error (.noFields name.text) ↔ e.fields = []) ∧
      (e.template naming name = .error (.nothingToSet name.text) ↔
        e.fields ≠ [] ∧ ∀ f ∈ e.fields, e.key = some f) ∧
      ((∃ f ∈ e.fields, e.key ≠ some f) → ∃ set template bindings issues,
        e.template naming name = .ok template ∧
        bindEntity method template (entity :: others) = .ok (bindings, issues) ∧
        e.Updates naming set entity.name template bindings)) := by
  refine ⟨fun hsave => ?_, fun hupdate => ?_⟩
  · rw [template_of_save hsave]
    refine ⟨by simp, fun hfields => ?_⟩
    rw [if_neg hfields]
    exact ⟨_, _, _, rfl, bindEntity_cons method _ entity others, inserts_insertTemplate _⟩
  · rw [template_of_update hupdate]
    by_cases hfields : e.fields = []
    · simp [hfields]
    · by_cases hall : ∀ f ∈ e.fields, e.key = some f
      · rw [if_neg hfields, if_pos hall]
        refine ⟨by simp [hfields], iff_of_true rfl ⟨hfields, hall⟩, ?_⟩
        rintro ⟨f, hf, hset⟩
        exact absurd (hall f hf) hset
      · rw [if_neg hfields, if_neg hall]
        refine ⟨by simp [hfields], by simp [hall], fun _ => ?_⟩
        exact ⟨_, _, _, _, rfl, bindEntity_cons method _ entity others,
          updates_updateTemplate hdistinct hkey _⟩

/-- A key between the other fields is not set, and it is bound last under its pinned column. -/
theorem stores_each_field_once_key_between :
    let e : Entity := ⟨"users", ["name", "id", "createdAt"], some "id", [("id", "user_id")]⟩
    let name : MethodName := ⟨.update, [], "updateUser"⟩
    e.fields.Nodup ∧ (∀ key, e.key = some key → key ∈ e.fields) ∧
      (∃ f ∈ e.fields, e.key ≠ some f) ∧
      ∃ set template bindings issues, e.template .snake name = .ok template ∧
        bindEntity "updateUser" template [⟨"user", none, .named "User"⟩] =
          .ok (bindings, issues) ∧
        e.Updates .snake set "user" template bindings ∧
        template.sql = "UPDATE users SET name = ?, created_at = ? WHERE user_id = ?" := by
  intro e name
  have hdistinct : e.fields.Nodup := by decide
  have hkey : ∀ key, e.key = some key → key ∈ e.fields := by
    rintro key hkey
    rw [← Option.some.inj hkey]
    decide
  have hset : ∃ f ∈ e.fields, e.key ≠ some f := ⟨"name", by decide, by decide⟩
  have hstores := stores_each_field_once hdistinct hkey .snake "updateUser"
    ⟨"user", none, .named "User"⟩ [] name
  obtain ⟨set, template, bindings, issues, htemplate, hbind, hupdates⟩ :=
    (hstores.2 rfl).2.2 hset
  have hsql : (e.template .snake name).map (·.sql) =
      .ok "UPDATE users SET name = ?, created_at = ? WHERE user_id = ?" := by decide +kernel
  rw [htemplate] at hsql
  exact ⟨hdistinct, hkey, hset, set, template, bindings, issues, htemplate, hbind, hupdates,
    Except.ok.inj hsql⟩

end Entity

end QueryMethods
