/-
Expressions and patterns as they are written.

An expression is a row of tokens with the kind of its outermost form.  Only two kinds are
looked into: a literal, for its value, and a path, for its segments.  A pattern is a row of
tokens with the name that it is, if it is nothing but a name.
-/
import QueryMethods.Syntax.Type

namespace QueryMethods.Syntax

/-- A literal as a value: a boolean, or a literal as it is written. -/
inductive LiteralValue
  | bool (b : Bool)
  | plain (l : Literal)
  deriving DecidableEq, Repr, Inhabited

/-- The kinds of expressions. -/
inductive ExpressionKind
  | array
  | assignment
  | asyncBlock
  | await
  /-- Two operands; the flag says that the operator compares them. -/
  | binary (compares : Bool)
  | block
  | breakJump
  | call
  | cast
  | closure
  | constBlock
  | continueJump
  | field
  | forLoop
  | branch
  | index
  | infer
  | letCondition
  | literal (v : LiteralValue)
  | endlessLoop
  /-- A call of a macro; the flag says that its arguments stand in braces. -/
  | macroCall (braces : Bool)
  | cases
  | methodCall
  | paren
  | path (p : Path)
  | range
  | reference
  | repeated
  | returnJump
  | record
  | question
  | tryBlock
  | tuple
  | unary
  | unsafeBlock
  /-- Tokens that are accepted as they are. -/
  | verbatim
  | whileLoop
  | yieldJump
  /-- The address of a place. -/
  | address

namespace ExpressionKind

/-- The name of a kind in messages. -/
def name : ExpressionKind → String
  | array => "array"
  | assignment => "assign"
  | asyncBlock => "async"
  | await => "await"
  | binary _ => "binary"
  | block => "block"
  | breakJump => "break"
  | call => "call"
  | cast => "cast"
  | closure => "closure"
  | constBlock => "const"
  | continueJump => "continue"
  | field => "field"
  | forLoop => "for_loop"
  | branch => "if"
  | index => "index"
  | infer => "infer"
  | letCondition => "let"
  | literal _ => "lit"
  | endlessLoop => "loop"
  | macroCall _ => "macro"
  | cases => "match"
  | methodCall => "method_call"
  | paren => "paren"
  | path _ => "path"
  | range => "range"
  | reference => "reference"
  | repeated => "repeat"
  | returnJump => "return"
  | record => "struct"
  | question => "try"
  | tryBlock => "try_block"
  | tuple => "tuple"
  | unary => "unary"
  | unsafeBlock => "unsafe"
  | verbatim => "verbatim"
  | whileLoop => "while"
  | yieldJump => "yield"
  | address => "unknown"

/-- Whether an expression is a statement, or the body of a case, with nothing behind it. -/
def standsAlone : ExpressionKind → Bool
  | branch | cases | block | unsafeBlock | whileLoop | endlessLoop | forLoop | tryBlock
  | constBlock => true
  | _ => false

end ExpressionKind

/-- An expression. -/
structure Expression where
  kind : ExpressionKind
  tokens : List Token

/-- A pattern. -/
structure Pattern where
  tokens : List Token
  binder : Option String

end QueryMethods.Syntax
