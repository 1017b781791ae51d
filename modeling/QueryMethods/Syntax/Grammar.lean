/-
The readers of source code that call each other.

Types hold expressions, expressions hold types, patterns and blocks, and each of them may
stand inside itself.  Every production is therefore written against a `Grammar`, the
readers for what stands inside it, and the knot is tied once, for a depth that no source
of a given size exceeds.
-/
import QueryMethods.Syntax.Expression
import QueryMethods.Syntax.Reader

namespace QueryMethods.Syntax

/-- How tightly operators bind, the loosest first. -/
inductive Precedence
  | lowest
  | assign
  | range
  | or
  | and
  | condition
  | compare
  | bitOr
  | bitXor
  | bitAnd
  | shift
  | sum
  | product
  | cast
  deriving DecidableEq, Repr, Inhabited

/-- The rank of a precedence. -/
def Precedence.rank : Precedence → Nat
  | lowest => 0
  | assign => 1
  | range => 2
  | or => 3
  | and => 4
  | condition => 5
  | compare => 6
  | bitOr => 7
  | bitXor => 8
  | bitAnd => 9
  | shift => 10
  | sum => 11
  | product => 12
  | cast => 13

/-- The readers for what stands inside a production. -/
structure Grammar where
  /-- A type; the flag says whether bounds may be added to it. -/
  type : Bool → Reader Ty
  /-- A bound of a type. -/
  bound : Reader (List Token)
  /-- An expression; the flag says whether a record may be written in it. -/
  expression : Bool → Reader Expression
  /-- An expression that ends with its block if it begins with one. -/
  early : Reader Expression
  /-- An operand. -/
  operand : Bool → Reader Expression
  /-- What operators of at least some precedence make of an operand. -/
  operators : Bool → Precedence → Expression → Reader Expression
  /-- A pattern without alternatives. -/
  pattern : Reader Pattern
  /-- What stands inside the braces of a block. -/
  body : Reader (List (List Token))

/-- The grammar that reads nothing. -/
def Grammar.empty : Grammar where
  type _ := Reader.fail .leftOver
  bound := Reader.fail .leftOver
  expression _ := Reader.fail .leftOver
  early := Reader.fail .leftOver
  operand _ := Reader.fail .leftOver
  operators _ _ _ := Reader.fail .leftOver
  pattern := Reader.fail .leftOver
  body := Reader.fail .leftOver

namespace Grammar

variable (g : Grammar)

/-- The tokens of an expression anywhere. -/
def expressionTokens : Reader (List Token) := do pure (← g.expression true).tokens

/-- The tokens of an expression before a block. -/
def conditionTokens : Reader (List Token) := do pure (← g.expression false).tokens

/-- The tokens of a type that bounds may be added to. -/
def typeTokens : Reader (List Token) := do pure (← g.type true).tokens

end Grammar

end QueryMethods.Syntax
