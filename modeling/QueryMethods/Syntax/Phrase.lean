/-
Phrases that generated code is built from.

Generated code names everything by its whole path, so that it means the same wherever it
is put.
-/
import QueryMethods.Syntax.Attribute
import QueryMethods.Syntax.Type

namespace QueryMethods.Syntax

/-- Tokens in parentheses. -/
def inParens (ts : List Token) : List Token := [.group .parenthesis ts]

/-- Tokens in brackets. -/
def inBrackets (ts : List Token) : List Token := [.group .bracket ts]

/-- Tokens in braces. -/
def inBraces (ts : List Token) : List Token := [.group .brace ts]

/-- Tokens in angle brackets. -/
def inAngles (ts : List Token) : List Token := .sign '<' false :: ts ++ [.sign '>' false]

/-- Rows of tokens with commas between them. -/
def withCommas : List (List Token) → List Token
  | [] => []
  | [ts] => ts
  | ts :: us :: rest => ts ++ .sign ',' false :: withCommas (us :: rest)

/-- A whole path. -/
def globalPath (names : List String) : List Token := PlainPath.tokens ⟨true, names⟩

/-- A double colon and a name. -/
def memberOf (name : String) : List Token := operator "::" ++ [.word name]

/-- A point and a name. -/
def fieldOf (name : String) : List Token := [.sign '.' false, .word name]

/-- A call of a method. -/
def methodCall (name : String) (arguments : List Token) : List Token :=
  fieldOf name ++ inParens arguments

/-- A reference to something. -/
def referenceTo (ts : List Token) : List Token := .sign '&' false :: ts

/-- A type in its role as an implementation of a trait. -/
def asTrait (type trait : List Token) : List Token := inAngles (type ++ .word "as" :: trait)

/-- Type arguments behind a double colon. -/
def typeArguments (ts : List Token) : List Token := operator "::" ++ inAngles ts

/-- Leaving early with the error of a result. -/
def orReturn : List Token := [.sign '?' false]

/-- The end of a statement. -/
def semicolon : List Token := [.sign ';' false]

/-- A name bound to a value. -/
def letStatement (name : String) (value : List Token) : List Token :=
  [.word "let", .word name, .sign '=' false] ++ value ++ semicolon

/-- A function of one argument. -/
def closure (argument : String) (body : List Token) : List Token :=
  [.sign '|' false, .word argument, .sign '|' false] ++ body

/-- A result without error. -/
def okCall (value : List Token) : List Token :=
  globalPath ["core", "result", "Result", "Ok"] ++ inParens value

/-- The default value of whatever type is asked for. -/
def defaultCall : List Token := globalPath ["core", "default", "Default", "default"] ++ inParens []

/-- A call that ends the program with a message. -/
def unimplementedCall (message : String) : List Token :=
  globalPath ["core", "unimplemented"] ++ .sign '!' false ::
    inParens (withCommas [[.quoted "\x7b\x7d"], [.quoted message]])

/-- A call that stops the compiler with a message. -/
def compileErrorCall (message : String) : List Token :=
  globalPath ["core", "compile_error"] ++ .sign '!' false :: inBraces [.quoted message]

/-! ### What the library for generated code offers -/

/-- A path into the library that generated code is linked with. -/
def libraryPath (names : List String) : List Token := globalPath ("sqlgen" :: names)

/-- Reading a value as a type. -/
def valueReader (type : List Token) : List Token :=
  asTrait type (libraryPath ["FromSqlValue"]) ++ memberOf "from_sql_value"

/-- Reading a row as a type. -/
def rowReader (type : List Token) : List Token :=
  asTrait type (libraryPath ["FromRow"]) ++ memberOf "from_row"

/-- The bound value of something. -/
def boundValue (ts : List Token) : List Token :=
  libraryPath ["ToSqlValue", "to_sql_value"] ++ inParens (referenceTo ts)

end QueryMethods.Syntax
