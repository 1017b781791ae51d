/-
The entity that a repository works on: its table, its fields and its key.

Fields are camel-cased names in declaration order.  A field's column is the one pinned
for it, if any, and otherwise what the naming makes of the field.
-/
import QueryMethods.Naming

namespace QueryMethods

/-- An entity: the table that holds it, its fields in order, the field that is its key,
and the columns pinned for fields, the latest first. -/
structure Entity where
  table : String
  fields : List String
  key : Option String
  pinned : List (String × String)
  deriving DecidableEq, Repr, Inhabited

namespace Entity

/-- An entity without pinned columns; a field named `id` is its key. -/
def ofFields (table : String) (fields : List String) : Entity :=
  ⟨table, fields, if "id" ∈ fields then some "id" else none, []⟩

/-- Makes a field the key. -/
def withKey (e : Entity) (field : String) : Entity := { e with key := some field }

/-- Leaves the entity without a key. -/
def withoutKey (e : Entity) : Entity := { e with key := none }

/-- Pins the column of a field; the latest pin of a field counts. -/
def withColumn (e : Entity) (field column : String) : Entity :=
  { e with pinned := (field, column) :: e.pinned }

/-- The column of a field. -/
def column (e : Entity) (naming : Naming) (field : String) : String :=
  (e.pinned.lookup field).getD (naming.column field)

/-- Whether the entity declares a field. -/
def has (e : Entity) (field : String) : Bool := e.fields.contains field

/-- The fields that are not the key, in order. -/
def nonKeyFields (e : Entity) : List String := e.fields.filter (fun f => e.key != some f)

end Entity

end QueryMethods
