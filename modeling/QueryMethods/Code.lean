/-
Generated code.

A body fetches rows or a scalar with one query, turns what came into the declared type,
and answers with it.  The code of a body is a tree, and its text is only one reading of
the tree; the other one is what it does.
-/
import QueryMethods.Plan
import QueryMethods.Syntax.Phrase

namespace QueryMethods

open Syntax

/-- The requests that code makes of an executor. -/
inductive Call
  | fetchAll
  | fetchOptional
  | fetchOne
  | fetchScalar
  | execute
  deriving DecidableEq, Repr, Inhabited

/-- The method of an executor for a request. -/
def Call.name : Call → String
  | fetchAll => "fetch_all"
  | fetchOptional => "fetch_optional"
  | fetchOne => "fetch_one"
  | fetchScalar => "fetch_scalar"
  | execute => "execute"

/-- A value that is bound: an argument or one of its fields, by their identifiers. -/
structure Operand where
  argument : String
  field : Option String
  deriving DecidableEq, Repr

/-- A query with everything it needs. -/
structure Query where
  /-- The method that asks. -/
  label : String
  /-- The field of the repository that runs statements. -/
  executor : String
  call : Call
  sql : String
  style : BindingStyle
  /-- The bound values, each with the name it is bound under. -/
  operands : List (String × Operand)
  deriving DecidableEq, Repr

/-- What a row is read as. -/
inductive RowForm
  /-- A value of the target, in the first column. -/
  | scalar
  /-- The target. -/
  | record
  /-- Another type that is turned into the target. -/
  | through (type : Path)

/-- How rows are read. -/
structure RowReading where
  /-- The columns to rename first, with their new names. -/
  renames : List (String × String)
  form : RowForm
  target : Ty

/-- Generated code. -/
inductive Code
  /-- What the executor answers. -/
  | query (q : Query)
  /-- The bound value of what some code yields. -/
  | bound (c : Code)
  /-- A value, read as a type. -/
  | readValue (type : Ty) (c : Code)
  /-- Whether a number is above zero. -/
  | isPositive (c : Code)
  /-- Every row, read. -/
  | everyRow (reading : RowReading) (c : Code)
  /-- The row that there may be, read. -/
  | possibleRow (reading : RowReading) (c : Code)
  /-- The one row, read. -/
  | oneRow (reading : RowReading) (c : Code)
  | literal (b : Bool)
  /-- A body that answers with a value. -/
  | answer (c : Code)
  /-- A body that answers with nothing. -/
  | done (c : Code)
  /-- The body of a method without a query, whose result holds a type. -/
  | placeholder (label : String) (type : Ty) (cardinality : Cardinality)

/-- The tokens of an operand. -/
def Operand.tokens (o : Operand) : List Token :=
  .word o.argument :: match o.field with
    | some field => fieldOf field
    | none => []

namespace Query

/-- The tokens of a bound value with its name. -/
def namedOperand (name : String) (o : Operand) : List Token :=
  inParens (withCommas
    [globalPath ["std", "string", "String", "from"] ++ inParens [.quoted name], boundValue o.tokens])

/-- The tokens of the bound values. -/
def operandTokens (q : Query) : List Token :=
  globalPath ["std", "vec"] ++ .sign '!' false :: inBrackets (withCommas (q.operands.map
    (fun (name, o) => match q.style with
      | .positional => boundValue o.tokens
      | .named => namedOperand name o)))

/-- The tokens of the statement. -/
def statementTokens (q : Query) : List Token :=
  libraryPath ["Statement", match q.style with
    | .positional => "positional"
    | .named => "named"] ++ inParens (withCommas [[.quoted q.sql], q.operandTokens])

/-- The tokens of a query. -/
def tokens (q : Query) : List Token :=
  let statement : List Token := referenceTo [.word "__statement"]
  inBraces
    (letStatement "__statement" q.statementTokens ++
      libraryPath ["__private", "trace"] ++
        inParens (withCommas [[.quoted q.label], statement]) ++ semicolon ++
      libraryPath ["SqlExecutor", q.call.name] ++
        inParens (withCommas [referenceTo (.word "self" :: fieldOf q.executor), statement]) ++
        fieldOf "await" ++ orReturn)

end Query

namespace RowReading

/-- The tokens of the row that is read. -/
def rowTokens (r : RowReading) : List Token :=
  if r.renames.isEmpty then [.word "__row"]
  else
    .word "__row" :: methodCall "remap" (referenceTo (inBrackets (withCommas (r.renames.map
      (fun (column, name) => inParens (withCommas [[.quoted column], [.quoted name]]))))))

/-- The tokens of the result of reading a row. -/
def tokens (r : RowReading) : List Token :=
  match r.form with
  | .scalar =>
    r.rowTokens ++ methodCall "into_first" [] ++
      methodCall "and_then" (valueReader r.target.tokens)
  | .record => rowReader r.target.tokens ++ inParens r.rowTokens
  | .through type =>
    rowReader type.tokens ++ inParens r.rowTokens ++
      methodCall "map" (globalPath ["core", "convert", "Into"] ++
        typeArguments r.target.tokens ++ memberOf "into")

/-- The tokens of a function that reads a row. -/
def closureTokens (r : RowReading) : List Token := closure "__row" r.tokens

end RowReading

/-- What is said of a method that no convention applies to. -/
def noConventionMessage (label : String) : String := s!"`{label}` matches no query convention"

/-- The tokens of the result of a method without a query. -/
def placeholderResult (label : String) : Cardinality → List Token
  | .list | .scalar => okCall defaultCall
  | .optional => okCall (globalPath ["core", "option", "Option", "None"])
  | .boolean => okCall [.word "false"]
  | .void => okCall (inParens [])
  | .single => unimplementedCall (noConventionMessage label)

/-- The tokens that note a method without a query. -/
def placeholderNote (label : String) : List Token :=
  libraryPath ["__private", "unsupported_method"] ++ inParens [.quoted label] ++ semicolon

namespace Code

/-- The tokens of code. -/
def tokens : Code → List Token
  | query q => q.tokens
  | bound c => boundValue c.tokens
  | readValue type c => valueReader type.tokens ++ inParens c.tokens ++ orReturn
  | isPositive c => c.tokens ++ [.sign '>' false, .literal ⟨"0", .integer⟩]
  | everyRow reading c =>
    c.tokens ++ methodCall "into_iter" [] ++ methodCall "map" reading.closureTokens ++
      fieldOf "collect" ++ typeArguments (globalPath ["core", "result", "Result"] ++
        inAngles (withCommas [[.word "_"], libraryPath ["SqlError"]])) ++
      inParens [] ++ orReturn
  | possibleRow reading c =>
    c.tokens ++ methodCall "map" reading.closureTokens ++ methodCall "transpose" [] ++ orReturn
  | oneRow reading c =>
    inBraces (letStatement "__row" c.tokens ++ reading.tokens ++ orReturn)
  | literal b => [.word (if b then "true" else "false")]
  | answer c => okCall c.tokens
  | done c => c.tokens ++ semicolon ++ okCall (inParens [])
  | placeholder label _ cardinality =>
    placeholderNote label ++ placeholderResult label cardinality

/-- The statements of code as a body. -/
def statements : Code → List (List Token)
  | done c => [c.tokens ++ semicolon, okCall (inParens [])]
  | placeholder label _ cardinality =>
    [placeholderNote label, placeholderResult label cardinality]
  | c => [c.tokens]

end Code

end QueryMethods
