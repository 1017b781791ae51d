/-
The values that statements are bound to and results consist of.
-/
import QueryMethods.Number.Shortest
import QueryMethods.Failure

namespace QueryMethods

/-- A value of SQL, whatever the database makes of it. -/
inductive Value
  | null
  | bool (b : Bool)
  | int (n : Int64)
  | float (x : Double)
  | text (s : String)
  /-- An exact decimal, kept as its text. -/
  | decimal (s : String)
  /-- A list, for comparisons with many values. -/
  | list (items : List Value)
  deriving Repr, Inhabited

namespace Value

/-- The name of the kind of value in messages. -/
def kindName : Value → String
  | null => "null"
  | bool _ => "bool"
  | int _ => "int"
  | float _ => "float"
  | text _ => "text"
  | decimal _ => "decimal"
  | list _ => "list"

/-- Whether a value is missing. -/
def isNull : Value → Bool
  | null => true
  | _ => false

mutual

/-- A value as it is shown. -/
def shown : Value → String
  | null => "NULL"
  | bool b => if b then "true" else "false"
  | int n => toString n.toInt
  | float x => x.text
  | text s => "'" ++ s ++ "'"
  | decimal s => s
  | list items => "(" ++ shownItems items ++ ")"

/-- The items of a list as they are shown. -/
def shownItems : List Value → String
  | [] => ""
  | [item] => item.shown
  | item :: items => item.shown ++ ", " ++ shownItems items

end

/-- The failure of reading a value as a type that it does not fit. -/
def misfit {α : Type} (v : Value) (expected : String) : Except Failure α :=
  .error (.decode expected v.kindName)

end Value

end QueryMethods
