/-
How the fields of an entity are spelled as columns, and entities as tables.

A naming is chosen once for a repository.  Fields come camel-cased.  The camel and the
Pascal naming touch at most the first character; the others break the name where a
lower-case letter of ASCII meets an upper-case one, write a separator there, and lower
everything.  A row of capitals therefore stays together, and a digit breaks nothing.
-/
import QueryMethods.Text.Case

namespace QueryMethods

/-- How fields become columns. -/
inductive Naming
  /-- `userToken` becomes `user_token`. -/
  | snake
  /-- `userToken` stays. -/
  | camel
  /-- `userToken` becomes `UserToken`. -/
  | pascal
  /-- `userToken` becomes `user-token`. -/
  | kebab
  /-- Kept for transforms to come; names are spelled as in `snake`. -/
  | custom
  deriving DecidableEq, Repr, Inhabited

/-- A lower-case letter of ASCII. -/
def isAsciiLower (c : Char) : Bool := c.isLower

/-- An upper-case letter of ASCII. -/
def isAsciiUpper (c : Char) : Bool := c.isUpper

/-- Lowers a name and writes `separator` before every upper-case letter that directly
follows a lower-case one; `afterLower` says whether a lower-case letter stands before. -/
def breakWords (separator : Char) : Bool → List Char → List Char
  | _, [] => []
  | afterLower, c :: rest =>
    (if afterLower && isAsciiUpper c then [separator] else []) ++ Text.lower c ++
      breakWords separator (isAsciiLower c) rest

namespace Naming

/-- The column of a camel-cased field. -/
def column (naming : Naming) (field : String) : String :=
  match naming with
  | camel => field
  | pascal => Text.upperFirst field
  | kebab => String.ofList (breakWords '-' false field.toList)
  | snake | custom => String.ofList (breakWords '_' false field.toList)

/-- The table of an entity: its name with the first character lowered, spelled as a
column.  The Pascal naming keeps the name. -/
def table (naming : Naming) (entity : String) : String :=
  match naming with
  | pascal => entity
  | other => other.column (Text.lowerFirst entity)

/-- How the naming is written in an attribute. -/
def spelling : Naming → String
  | snake => "snake_case"
  | camel => "camelCase"
  | pascal => "PascalCase"
  | kebab => "kebab-case"
  | custom => "custom"

end Naming

/-- A word with underscores and hyphens dropped and the letters of ASCII lowered. -/
def looseSpelling (s : String) : String :=
  String.ofList ((s.toList.filter (fun c => c != '_' && c != '-')).map Char.toLower)

/-- Reads a naming, whatever the case and with or without separators. -/
def Naming.ofText (s : String) : Option Naming :=
  match looseSpelling s with
  | "snakecase" | "snake" => some .snake
  | "camelcase" | "camel" => some .camel
  | "pascalcase" | "pascal" => some .pascal
  | "kebabcase" | "kebab" => some .kebab
  | "custom" => some .custom
  | _ => none

/-- What is said of a word that names no naming. -/
def Naming.unknownMessage (s : String) : String :=
  s!"unknown naming strategy `{s}`, expected one of: snake_case, camelCase, PascalCase, " ++
    "kebab-case, custom"

end QueryMethods
