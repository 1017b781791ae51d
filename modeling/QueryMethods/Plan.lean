/-
The plan of a method: everything a body is made from.

A plan has its SQL, what the SQL does, how values are attached to it and where they come
from, and how the result is made from rows.
-/
import QueryMethods.Binding
import QueryMethods.Mapping
import QueryMethods.Sql.Kind
import QueryMethods.Entity

namespace QueryMethods

/-- How values are attached to a statement. -/
inductive BindingStyle
  /-- In the order of the markers. -/
  | positional
  /-- By the names of the markers. -/
  | named
  deriving DecidableEq, Repr, Inhabited

namespace BindingStyle

/-- Reads a style, whatever the case of its letters. -/
def ofText (s : String) : Option BindingStyle :=
  match Text.lowerAscii s with
  | "positional" => some positional
  | "named" => some named
  | _ => none

/-- What is said of a word that names no style. -/
def unknownMessage (s : String) : String :=
  s!"unknown parameter style `{s}`, expected `positional` or `named`"

end BindingStyle

/-- Everything the body of a method is made from. -/
structure Plan where
  method : String
  sql : String
  kind : StatementKind
  style : BindingStyle
  bindings : List Binding
  mapping : Mapping
  cardinality : Cardinality
  deriving DecidableEq, Repr

/-- The signature of a method: its camel-cased name, its parameters behind the receiver,
the shape it returns, and whether it has a body of its own. -/
structure Signature where
  name : String
  parameters : List Parameter
  returns : Shape
  hasBody : Bool
  deriving DecidableEq, Repr

/-- SQL written by hand for a method. -/
structure NativeQuery where
  sql : String
  /-- The type that is read first and turned into the declared element. -/
  resultType : Option Shape := none
  mapping : MappingStrategy := .auto
  columns : List (String × String) := []
  /-- Changes rows whatever its first word is. -/
  isUpdate : Bool := false
  /-- How values are attached; as the markers say when absent. -/
  style : Option BindingStyle := none
  /-- Whether parameters are checked against the markers. -/
  validate : Bool := true
  deriving DecidableEq, Repr

/-- What a repository is generated for. -/
structure Context where
  entity : Option Entity
  naming : Naming
  /-- Only methods with hand-written SQL are generated. -/
  nativeOnly : Bool
  /-- Issues are errors. -/
  strict : Bool
  deriving DecidableEq, Repr

end QueryMethods
