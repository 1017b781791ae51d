/-
The settings of a repository: which entity it works on, how its columns are spelled, and
what its methods run on.
-/
import QueryMethods.Settings.Value
import QueryMethods.Identifier

namespace QueryMethods

open Syntax (Path PlainPath Token)

/-- The settings of a repository. -/
structure RepositorySettings where
  /-- The type of the entity, whose name is the table's unless that is given. -/
  entity : Option Path
  table : Option String
  naming : Naming
  /-- The fields of the entity, in the order of the columns. -/
  fields : List PlainPath
  /-- The field that is the key; otherwise one named `id` is. -/
  key : Option Path
  /-- The field of the repository that runs statements. -/
  executor : Path
  /-- Whether only hand-written queries are generated. -/
  nativeOnly : Bool
  /-- Whether issues are errors. -/
  strict : Bool

namespace RepositorySettings

/-- The settings when nothing is given. -/
def defaults : RepositorySettings :=
  ⟨none, none, .snake, [], none, Path.ofName "executor", false, false⟩

/-- The settings by their names. -/
def all : List (Setting RepositorySettings) :=
  [ValueForm.path.setting "entity" (fun v s => { s with entity := some v }),
    ValueForm.string.setting "table" (fun v s => { s with table := some v }),
    (ValueForm.choice Naming.ofText).setting "naming" (fun v s => { s with naming := v }),
    ValueForm.paths.setting "fields" (fun v s => { s with fields := v }),
    ValueForm.path.setting "primary_key" (fun v s => { s with key := some v }),
    ValueForm.path.setting "executor" (fun v s => { s with executor := v }),
    ValueForm.boolean.setting "native_only" (fun v s => { s with nativeOnly := v }),
    ValueForm.boolean.setting "strict" (fun v s => { s with strict := v })]

/-- Reads the settings of a repository. -/
def ofItems (items : List SettingItem) : Except (List Problem) RepositorySettings :=
  readSettings all [] defaults items

/-- The name that a path must be. -/
def nameOf (p : Path) : Except Problem String :=
  match p.identifier? with
  | some name => .ok name
  | none => .error (.here .notAName)

/-- The name that a plain path must be. -/
def nameOfPlain : PlainPath → Except Problem String
  | ⟨false, [name]⟩ => .ok name
  | _ => .error (.here .notAName)

/-- The fields of the entity: the name that methods use for each, and its identifier. -/
def fieldNames (s : RepositorySettings) : Except Problem (List (String × String)) :=
  s.fields.mapM (fun p => do
    let identifier ← nameOfPlain p
    pure (fieldName identifier, identifier))

/-- The identifier of the field that runs statements. -/
def executorName (s : RepositorySettings) : Except Problem String := nameOf s.executor

/-- The name of the table, if there is an entity at all. -/
def tableName (s : RepositorySettings) : Option String :=
  match s.table, s.entity with
  | some table, _ => some table
  | none, some entity => some (s.naming.table (plainName entity.name))
  | none, none => none

/-- The entity with the given fields, each with its column. -/
def entityOfFields (s : RepositorySettings) (table : String) (fields : List (String × String)) :
    Entity :=
  fields.foldl (fun e (name, identifier) => e.withColumn name (s.naming.identifierColumn identifier))
    (Entity.ofFields table (fields.map (·.1)))

/-- The entity with its key. -/
def withGivenKey (s : RepositorySettings) (e : Entity) : Except Problem Entity :=
  match s.key with
  | none => .ok e
  | some key => do
    let name := fieldName (← nameOf key)
    if e.has name then pure (e.withKey name) else .error (.here .unlistedKey)

/-- What the settings say to the planning of methods.  Without an entity only hand-written
queries are planned. -/
def context (s : RepositorySettings) : Except Problem Context :=
  match s.tableName with
  | none => .ok ⟨none, s.naming, true, s.strict⟩
  | some table => do
    let fields ← s.fieldNames
    if fields.isEmpty then .error (.here .noFields)
    else
      let entity ← s.withGivenKey (s.entityOfFields table fields)
      pure ⟨some entity, s.naming, s.nativeOnly, s.strict⟩

end RepositorySettings

end QueryMethods
