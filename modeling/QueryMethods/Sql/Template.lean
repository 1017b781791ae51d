/-
SQL with markers still to be filled, and what each marker stands for.

Every `?` of a template has one slot, in order, so values can be bound without reading
the SQL again.
-/
import QueryMethods.Sql.Kind

namespace QueryMethods

/-- What one marker stands for. -/
inductive Slot
  /-- The condition with this number, which compares this field; a range has two slots of
  one condition. -/
  | condition (index : Nat) (field : String)
  /-- A field of an entity that is stored. -/
  | field (name : String)
  deriving DecidableEq, Repr

namespace Slot

/-- The field a slot belongs to. -/
def fieldName : Slot → String
  | condition _ name => name
  | field name => name

end Slot

/-- A statement with one slot for each of its markers. -/
structure Template where
  sql : String
  kind : StatementKind
  slots : List Slot
  deriving DecidableEq, Repr

end QueryMethods
