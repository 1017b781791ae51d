/-
What became of one method.

Planning and generation answer with the same five outcomes; only the value differs.  A
failure is an outcome like any other, so one method never stands in the way of the next.
-/
import QueryMethods.Issue

namespace QueryMethods

/-- What became of one method. -/
inductive Outcome (α : Type)
  /-- It worked. -/
  | clean (value : α)
  /-- It worked, with advice. -/
  | warned (value : α) (issues : List Issue)
  /-- No convention applies; the body says so, once there is one. -/
  | unsupported (method : String) (issues : List Issue) (body : Option α)
  /-- It failed, and the method keeps the body it has. -/
  | kept (method : String) (issues : List Issue)
  /-- There was nothing to generate. -/
  | skipped (method : String)
  deriving Repr

namespace Outcome

/-- A value with the advice that came with it. -/
def ofIssues {α : Type} (value : α) (issues : List Issue) : Outcome α :=
  if issues.isEmpty then clean value else warned value issues

/-- The value, if there is one. -/
def value? {α : Type} : Outcome α → Option α
  | clean value => some value
  | warned value _ => some value
  | unsupported _ _ body => body
  | kept _ _ => none
  | skipped _ => none

/-- The issues of an outcome. -/
def issues {α : Type} : Outcome α → List Issue
  | warned _ issues => issues
  | unsupported _ issues _ => issues
  | kept _ issues => issues
  | clean _ => []
  | skipped _ => []

/-- A method that no convention applies to. -/
def noConvention {α : Type} (method : String) : Outcome α :=
  unsupported method [.unsupportedName method] none

end Outcome

end QueryMethods
