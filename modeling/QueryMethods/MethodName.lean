/-
What the name of a method says.

A conventional name is an operation followed, after `By`, by conditions:

    findBy  Name  And  Age  GreaterThan

Each condition is a field, a comparison written behind it or left out for equality, and
the connector that links it to the condition before.
-/

namespace QueryMethods

/-- What a method does, chosen by the beginning of its name. -/
inductive Operation
  /-- Rows that meet the conditions. -/
  | find
  /-- Every row, or those that meet the conditions. -/
  | findAll
  /-- How many rows meet the conditions. -/
  | count
  /-- Deletes the rows that meet the conditions. -/
  | delete
  /-- Whether any row meets the conditions. -/
  | exist
  /-- Inserts an entity. -/
  | save
  /-- Updates an entity by its key. -/
  | update
  /-- The name begins with no known operation. -/
  | unknown
  deriving DecidableEq, Repr, Inhabited

/-- How a condition is linked to the one before it. -/
inductive Connector
  | and
  | or
  /-- No connector was written. -/
  | none
  deriving DecidableEq, Repr, Inhabited

namespace Connector

/-- The connector in SQL; a condition without one is joined like `and`. -/
def token : Connector → String
  | or => "OR"
  | and | none => "AND"

end Connector

/-- How a field is compared. -/
inductive Comparison
  | equal
  | notEqual
  | greaterThan
  | greaterThanEqual
  | lessThan
  | lessThanEqual
  | like
  | notLike
  | isIn
  | notIn
  | isNull
  | isNotNull
  | between
  | notBetween
  | containing
  | notContaining
  | startingWith
  | endingWith
  deriving DecidableEq, Repr, Inhabited

namespace Comparison

/-- Every comparison. -/
def all : List Comparison :=
  [equal, notEqual, greaterThan, greaterThanEqual, lessThan, lessThanEqual, like, notLike,
    isIn, notIn, isNull, isNotNull, between, notBetween, containing, notContaining,
    startingWith, endingWith]

/-- The word for a comparison at the end of a condition. -/
def keyword : Comparison → String
  | equal => "Equal"
  | notEqual => "NotEqual"
  | greaterThan => "GreaterThan"
  | greaterThanEqual => "GreaterThanEqual"
  | lessThan => "LessThan"
  | lessThanEqual => "LessThanEqual"
  | like => "Like"
  | notLike => "NotLike"
  | isIn => "In"
  | notIn => "NotIn"
  | isNull => "IsNull"
  | isNotNull => "IsNotNull"
  | between => "Between"
  | notBetween => "NotBetween"
  | containing => "Containing"
  | notContaining => "NotContaining"
  | startingWith => "StartingWith"
  | endingWith => "EndingWith"

/-- The comparison in SQL. -/
def token : Comparison → String
  | equal => "="
  | notEqual => "!="
  | greaterThan => ">"
  | greaterThanEqual => ">="
  | lessThan => "<"
  | lessThanEqual => "<="
  | like | containing | startingWith | endingWith => "LIKE"
  | notLike | notContaining => "NOT LIKE"
  | isIn => "IN"
  | notIn => "NOT IN"
  | isNull => "IS NULL"
  | isNotNull => "IS NOT NULL"
  | between => "BETWEEN"
  | notBetween => "NOT BETWEEN"

/-- What follows the comparison in SQL, its markers included. -/
def operands : Comparison → String
  | isNull | isNotNull => ""
  | between | notBetween => " ? AND ?"
  | isIn | notIn => " (?)"
  | _ => " ?"

/-- How many values the comparison takes. -/
def arity : Comparison → Nat
  | isNull | isNotNull => 0
  | between | notBetween => 2
  | _ => 1

end Comparison

/-- One field, how it is compared, and the link to the condition before. -/
structure Condition where
  field : String
  comparison : Comparison
  connector : Connector
  deriving DecidableEq, Repr, Inhabited

/-- What a method name says, with the name itself. -/
structure MethodName where
  operation : Operation
  conditions : List Condition
  text : String
  deriving DecidableEq, Repr, Inhabited

namespace MethodName

/-- The fields of the conditions, in order. -/
def fields (m : MethodName) : List String := m.conditions.map (·.field)

/-- How many values the conditions take together. -/
def arity (m : MethodName) : Nat := m.conditions.foldr (fun c n => c.comparison.arity + n) 0

end MethodName

end QueryMethods
