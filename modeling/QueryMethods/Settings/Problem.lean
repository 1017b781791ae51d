/-
What can be wrong with the settings of an attribute.

A problem is noticed somewhere inside nested settings; it carries the names that lead to
its place, the outermost first.  Problems are collected, so that all of them are shown.
-/
import QueryMethods.Syntax.Reader
import QueryMethods.Text.Resemblance

namespace QueryMethods

/-- What is wrong. -/
inductive ProblemCause
  /-- The tokens cannot be read. -/
  | unreadable (e : Syntax.SyntaxError)
  /-- No setting has the name; the ones that exist are listed. -/
  | unknownName (name : String) (known : List String)
  /-- A setting is given twice. -/
  | repeated (name : String)
  /-- A setting must be given. -/
  | missing (name : String)
  /-- The value is of a kind that the setting does not take. -/
  | wrongType (name : String)
  /-- The setting is not written in this form. -/
  | wrongForm (name : String)
  /-- The value is of the right kind but means nothing. -/
  | unknownValue (value : String)
  /-- An entry of a column mapping is no text. -/
  | entryIsNoText
  /-- A path stands where a name is needed. -/
  | notAName
  /-- There are no fields to derive queries from. -/
  | noFields
  /-- The key is none of the fields. -/
  | unlistedKey
  /-- A method has two queries. -/
  | secondQuery
  /-- An attribute for parameters has no parentheses. -/
  | noParentheses (name : String)
  /-- An attribute for parameters has a value. -/
  | valueForParentheses (name : String)
  /-- An attribute for records has a value. -/
  | valueForSettings (name : String)
  /-- Only a record with named fields can be read from a row. -/
  | notARecord
  /-- A union cannot be read from a row. -/
  | isUnion
  /-- A skipped field is also said to be read. -/
  | skipConflict
  /-- A nested field is also said to have a default. -/
  | nestedDefault
  deriving DecidableEq, Repr

namespace ProblemCause

/-- Puts texts in ascending order. -/
def sorted (xs : List String) : List String := xs.mergeSort (fun a b => decide (a ≤ b))

/-- What is offered instead of an unknown name. -/
def offer (name : String) (known : List String) : String :=
  match Text.closest name known with
  | some close => s!". Did you mean `{close}`?"
  | none =>
    if known.isEmpty then ""
    else ". Available values: " ++
      String.intercalate ", " ((sorted known).map (fun k => s!"`{k}`"))

/-- What is said of a problem. -/
def message : ProblemCause → String
  | unreadable e => e.message
  | unknownName name known => s!"Unknown field: `{name}`" ++ offer name known
  | repeated name => s!"Duplicate field `{name}`"
  | missing name => s!"Missing field `{name}`"
  | wrongType name => s!"Unexpected type `{name}`"
  | wrongForm name => s!"Unexpected meta-item format `{name}`"
  | unknownValue value => s!"Unknown value: `{value}`"
  | entryIsNoText => "expected a \"column=property\" string"
  | notAName => "expected an identifier"
  | noFields => "list the entity fields with `fields(...)` to generate derived queries"
  | unlistedKey => "primary key must be one of `fields(...)`"
  | secondQuery => "`#[native_query]` may appear only once"
  | noParentheses name => s!"expected attribute arguments in parentheses: #[{name}(...)]"
  | valueForParentheses name => s!"expected parentheses: #[{name}(...)]"
  | valueForSettings name => s!"Name-value arguments are not supported. Use #[{name}(...)]"
  | notARecord => "`FromRow` requires a struct with named fields"
  | isUnion => "Unions are not supported"
  | skipConflict => "`skip` cannot be combined with `nested` or `default`"
  | nestedDefault => "`nested` cannot be combined with `default`"

end ProblemCause

/-- A problem and the names that lead to its place. -/
structure Problem where
  cause : ProblemCause
  place : List String
  deriving DecidableEq, Repr

namespace Problem

/-- A problem where it is noticed. -/
def here (cause : ProblemCause) : Problem := ⟨cause, []⟩

/-- A problem inside a setting or a field. -/
def inside (name : String) (p : Problem) : Problem := { p with place := name :: p.place }

/-- What is said of a problem, its place at the end. -/
def message (p : Problem) : String :=
  p.cause.message ++ if p.place.isEmpty then "" else " at " ++ String.intercalate "/" p.place

end Problem

end QueryMethods
