/-
The names in a source as fields and columns.

A field of an entity is known by its camel-cased name.  Its column follows from the
identifier itself where that is already spelled as the naming asks: going through the
camel-cased name would lose the break behind a digit, as in `address1_line`.
-/
import QueryMethods.Naming
import QueryMethods.Text.Word

namespace QueryMethods

/-- An identifier without the mark of a raw one. -/
def plainName (identifier : String) : String :=
  match identifier.toList with
  | 'r' :: '#' :: rest => String.ofList rest
  | _ => identifier

/-- The camel-cased name of a field or a method. -/
def fieldName (identifier : String) : String := Text.camelCase (plainName identifier)

/-- The column of a field with an identifier. -/
def Naming.identifierColumn (naming : Naming) (identifier : String) : String :=
  match naming with
  | snake | custom => plainName identifier
  | kebab => String.ofList ((plainName identifier).toList.map (fun c => if c = '_' then '-' else c))
  | camel | pascal => naming.column (fieldName identifier)

end QueryMethods
