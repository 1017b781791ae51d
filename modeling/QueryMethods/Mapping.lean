/-
How the rows of a result become the declared type.

The shape of the type decides how many rows are read and what each row becomes:

    ()                    nothing is read
    bool, a scalar        one value
    a type of the user    one row, read as a record
    a list of these       every row
    an option of these    one row or none
    a list or an option of a map with text keys
                          the row as it is, column by column

Anything else is read as one record, with an issue.  A strategy that renames columns
first reads records whatever the elements are; how many rows are read stays the same.
-/
import QueryMethods.Shape
import QueryMethods.Issue
import QueryMethods.Naming
import QueryMethods.Text.Blank

namespace QueryMethods

/-- How many rows or values a method answers with. -/
inductive Cardinality
  /-- Exactly one row. -/
  | single
  /-- One row or none. -/
  | optional
  /-- Any number of rows. -/
  | list
  /-- One scalar. -/
  | scalar
  /-- One boolean. -/
  | boolean
  /-- Nothing. -/
  | void
  deriving DecidableEq, Repr, Inhabited

namespace Cardinality

/-- The name of a cardinality in messages. -/
def name : Cardinality → String
  | single => "single"
  | optional => "optional"
  | list => "list"
  | scalar => "scalar"
  | boolean => "boolean"
  | void => "void"

/-- Whether one value is read rather than rows. -/
def isScalar : Cardinality → Bool
  | scalar | boolean => true
  | _ => false

end Cardinality

/-- The ways to turn rows into values that an attribute can ask for. -/
inductive MappingStrategy
  /-- As the declared type says. -/
  | auto
  /-- Columns renamed as listed. -/
  | manual
  /-- Columns renamed to properties. -/
  | beanProperty
  /-- The same as `auto`. -/
  | constructor
  /-- Columns renamed to dotted properties. -/
  | nested
  deriving DecidableEq, Repr, Inhabited

namespace MappingStrategy

/-- Whether columns are renamed before a row is read. -/
def renames : MappingStrategy → Bool
  | manual | beanProperty | nested => true
  | auto | constructor => false

/-- Reads a strategy, whatever the case and with or without separators. -/
def ofText (s : String) : Option MappingStrategy :=
  match looseSpelling s with
  | "auto" => some auto
  | "manual" => some manual
  | "beanproperty" => some beanProperty
  | "constructor" => some constructor
  | "nested" => some nested
  | _ => none

/-- What is said of a word that names no strategy. -/
def unknownMessage (s : String) : String :=
  s!"unknown mapping strategy `{s}`, expected one of: auto, manual, bean_property, " ++
    "constructor, nested"

end MappingStrategy

/-- What one row becomes. -/
inductive RowRule
  /-- A record of the target type. -/
  | record
  /-- A map from columns to values. -/
  | columns
  /-- The value of the first column. -/
  | scalar (kind : ScalarKind)
  /-- A record, once columns are renamed. -/
  | renamed
  /-- No row is read. -/
  | nothing
  deriving DecidableEq, Repr, Inhabited

/-- How the result of a method is made from rows. -/
structure Mapping where
  /-- The strategy asked for. -/
  strategy : MappingStrategy
  /-- The type of one element. -/
  target : Shape
  /-- The columns to rename and their properties. -/
  columns : List (String × String)
  /-- What one row becomes. -/
  row : RowRule
  /-- The type that is read first and turned into the target, if there is one. -/
  via : Option Shape
  deriving DecidableEq, Repr

/-- A mapping with the number of rows it is for and what is unclear about it. -/
structure Resolution where
  mapping : Mapping
  cardinality : Cardinality
  issues : List Issue
  deriving DecidableEq, Repr

/-- What is decided from a shape: the number of rows, the type of one element, and what
one row becomes. -/
structure MappingChoice where
  cardinality : Cardinality
  target : Shape
  row : RowRule
  deriving DecidableEq, Repr

namespace Shape

/-- The cardinality of a single scalar. -/
def scalarCardinality : ScalarKind → Cardinality
  | .bool => .boolean
  | _ => .scalar

/-- What a row becomes when it is one element of a list or an option. -/
def elementRule : Shape → Option RowRule
  | named _ => some .record
  | scalar kind _ => some (.scalar kind)
  | element => if element.isTextMap then some .columns else none

/-- The choice that a shape alone makes, if it makes one. -/
def choice : Shape → Option MappingChoice
  | unit => some ⟨.void, unit, .nothing⟩
  | scalar kind name => some ⟨scalarCardinality kind, scalar kind name, .scalar kind⟩
  | sequence element => element.elementRule.map (fun row => ⟨.list, element, row⟩)
  | optional element => element.elementRule.map (fun row => ⟨.optional, element, row⟩)
  | named path => some ⟨.single, named path, .record⟩
  | map _ _ | other _ => none

/-- The choice that a shape makes when columns are renamed. -/
def renamedChoice : Shape → MappingChoice
  | unit => ⟨.void, unit, .nothing⟩
  | scalar kind name => ⟨scalarCardinality kind, scalar kind name, .scalar kind⟩
  | sequence element => ⟨.list, element, .renamed⟩
  | optional element => ⟨.optional, element, .renamed⟩
  | shape => ⟨.single, shape, .renamed⟩

end Shape

/-- Whether a row rule reads records, so that a type read first has a use. -/
def RowRule.readsRecords : RowRule → Bool
  | record | renamed => true
  | _ => false

/-- Decides how rows become a declared shape. -/
def resolveMapping (method : String) (shape : Shape) (strategy : MappingStrategy)
    (columns : List (String × String)) (via : Option Shape) : Resolution :=
  let decided := if strategy.renames then some shape.renamedChoice else shape.choice
  let choice := decided.getD ⟨.single, shape, .record⟩
  { mapping :=
      { strategy, target := choice.target, columns, row := choice.row
        via := via.filter (fun _ => choice.row.readsRecords) }
    cardinality := choice.cardinality
    issues := if decided.isSome then [] else [.ambiguousMapping method shape.spelling] }

/-- A column and its property from an entry `column=property`; an entry without the sign
keeps the name of its column. -/
def readColumnEntry (entry : String) : String × String :=
  let column := entry.toList.takeWhile (· != '=')
  match entry.toList.dropWhile (· != '=') with
  | [] => (Text.trim entry, Text.trim entry)
  | _ :: property => (Text.trim (String.ofList column), Text.trim (String.ofList property))

/-- The pairs that a list of entries writes, in order. -/
def readColumnMapping (entries : List String) : List (String × String) :=
  entries.map readColumnEntry

end QueryMethods
