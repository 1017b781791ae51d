/-
What generated code computes with.

Arguments, the answers of an executor, and everything made from them are data.  A written
type says which typed values it has, if it is one whose values are bound and read.
-/
import QueryMethods.Row
import QueryMethods.Syntax.Shape

namespace QueryMethods

open Syntax (Ty Path Argument)

/-- Something that code computes with. -/
inductive Datum
  /-- Nothing. -/
  | unit
  /-- A value of a type that is bound and read. -/
  | typed (t : ValueType) (x : t.Carrier)
  | row (r : Row)
  /-- A record, field by field. -/
  | record (fields : List (String × Datum))
  /-- Values by key, in ascending order of the keys. -/
  | map (t : ValueType) (entries : List (String × t.Carrier))
  | list (items : List Datum)
  | option (item : Option Datum)

instance : Inhabited Datum := ⟨.unit⟩

namespace IntegerType

/-- The least number of a type or zero, whichever is greater: zero for every type. -/
def zero (t : IntegerType) : t.Carrier := ⟨0, by cases t <;> decide⟩

/-- A machine word as an integer. -/
def ofWord (n : UInt64) : Carrier u64 :=
  ⟨n.toNat, by have h := n.toNat_lt; constructor <;> simp only [least, greatest] <;> omega⟩

end IntegerType

namespace ValueType

/-- The default value of a type. -/
def defaultValue : (t : ValueType) → t.Carrier
  | bool => false
  | integer t => t.zero
  | single => ⟨0⟩
  | double => ⟨0⟩
  | text => ""
  | char => Char.ofNat 0
  | value => .null
  | option _ => none
  | list _ => []

/-- The type of values with a name. -/
def ofName (name : String) : Option ValueType :=
  if name = "bool" then some bool
  else if name = "f32" then some single
  else if name = "f64" then some double
  else if name = "String" ∨ name = "str" then some text
  else if name = "char" then some char
  else if name = "SqlValue" then some value
  else (IntegerType.all.find? (·.name = name)).map integer

/-- The type of values with a name and a type argument. -/
def ofApplied (name : String) (argument : ValueType) : Option ValueType :=
  if name = "Option" then some (option argument)
  else if name ∈ Syntax.sequenceNames then some (list argument)
  else none

end ValueType

mutual

/-- The type of values that a written type stands for, if it is one; a reference stands for
what it refers to. -/
def Syntax.Ty.valueType? : Ty → Option ValueType
  | .reference _ inner => inner.valueType?
  | .parens inner => inner.valueType?
  | .slice element => element.valueType?.map .list
  | .array element _ => element.valueType?.map .list
  | .path p => p.valueType?
  | _ => none

/-- The type of values that a path stands for. -/
def Syntax.Path.valueType? : Path → Option ValueType
  | .mk _ name .absent => ValueType.ofName name
  | .mk _ name (.angled _ items) => (Syntax.argumentValueType? items).bind (ValueType.ofApplied name)
  | .mk _ _ (.parenthesised _) => none

/-- The type of values that a single type argument stands for. -/
def Syntax.argumentValueType? : List Argument → Option ValueType
  | [.type t _] => t.valueType?
  | _ => none

end

end QueryMethods
