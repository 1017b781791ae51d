/-
What can go wrong while a statement runs or its result is read.
-/

namespace QueryMethods

/-- Why a statement failed or its result could not be read. -/
inductive Failure
  /-- The database reported an error. -/
  | backend (text : String)
  /-- A row was needed and none came. -/
  | noRows
  /-- More rows came than may come. -/
  | tooManyRows (count : Nat)
  /-- A column is not in the row. -/
  | missingColumn (column : String)
  /-- A value does not fit the type. -/
  | decode (expected found : String)
  /-- A named marker has no value. -/
  | unboundParameter (name : String)
  deriving DecidableEq, Repr

namespace Failure

/-- What is said of a failure. -/
def message : Failure → String
  | backend text => s!"database error: {text}"
  | noRows => "query returned no rows"
  | tooManyRows count => s!"query returned {toString count} rows where at most one was expected"
  | missingColumn column => s!"column `{column}` not found in row"
  | decode expected found => s!"cannot decode {found} value as {expected}"
  | unboundParameter name => s!"named parameter `:{name}` has no bound value"

end Failure

end QueryMethods
