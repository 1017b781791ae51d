/-
Types as they are written.

A type is kept as far as it decides how results are read: references, brackets, slices,
arrays, and paths with their generic arguments.  Every other type is a row of tokens.
Written out again, the lifetimes among generic arguments come first.
-/
import QueryMethods.Syntax.Token

namespace QueryMethods.Syntax

mutual

/-- A type. -/
inductive Ty
  /-- A reference, with its sign, lifetime and `mut`. -/
  | reference (mark : List Token) (inner : Ty)
  | parens (inner : Ty)
  /-- The empty tuple. -/
  | unit
  | slice (element : Ty)
  | array (element : Ty) (length : List Token)
  | path (p : Path)
  /-- A path behind a type in angle brackets. -/
  | qualified (opening : List Token) (p : Path)
  | other (tokens : List Token)

/-- A path: all that stands before its last segment, and that segment. -/
inductive Path
  | mk (before : List Token) (name : String) (arguments : Arguments)

/-- What follows the name of a segment. -/
inductive Arguments
  | absent
  /-- Arguments in angle brackets, perhaps behind a double colon. -/
  | angled (mark : List Token) (items : List Argument)
  /-- The arguments and the result of a function. -/
  | parenthesised (tokens : List Token)

/-- A generic argument, and whether a comma follows it. -/
inductive Argument
  | type (t : Ty) (comma : Bool)
  | lifetime (tokens : List Token) (comma : Bool)
  | other (tokens : List Token) (comma : Bool)

end

instance : Inhabited Ty := ⟨.unit⟩
instance : Inhabited Path := ⟨.mk [] "" .absent⟩

/-- A comma, or nothing. -/
def commaTokens (comma : Bool) : List Token := if comma then [.sign ',' false] else []

/-- Whether the last lifetime among arguments, if there is one, has no comma behind it. -/
def endsBare (bare : Bool) : List Argument → Bool
  | [] => bare
  | .lifetime _ comma :: rest => endsBare (!comma) rest
  | _ :: rest => endsBare bare rest

/-- The lifetimes among arguments. -/
def lifetimeTokens : List Argument → List Token
  | [] => []
  | .lifetime ts comma :: rest => ts ++ commaTokens comma ++ lifetimeTokens rest
  | _ :: rest => lifetimeTokens rest

mutual

/-- The tokens of a type. -/
def Ty.tokens : Ty → List Token
  | .reference mark inner => mark ++ inner.tokens
  | .parens inner => [.group .parenthesis inner.tokens]
  | .unit => [.group .parenthesis []]
  | .slice element => [.group .bracket element.tokens]
  | .array element length => [.group .bracket (element.tokens ++ .sign ';' false :: length)]
  | .path p => p.tokens
  | .qualified opening p => opening ++ p.tokens
  | .other ts => ts

/-- The tokens of a path. -/
def Path.tokens : Path → List Token
  | .mk before name arguments => before ++ .word name :: arguments.tokens

/-- The tokens behind the name of a segment. -/
def Arguments.tokens : Arguments → List Token
  | .absent => []
  | .angled mark items =>
    let others := otherTokens items
    mark ++ .sign '<' false :: lifetimeTokens items ++
      commaTokens (endsBare false items && !others.isEmpty) ++ others ++ [.sign '>' false]
  | .parenthesised ts => ts

/-- The arguments that are no lifetimes. -/
def otherTokens : List Argument → List Token
  | [] => []
  | .type t comma :: rest => t.tokens ++ commaTokens comma ++ otherTokens rest
  | .other ts comma :: rest => ts ++ commaTokens comma ++ otherTokens rest
  | .lifetime _ _ :: rest => otherTokens rest

end

namespace Path

/-- The name of the last segment. -/
def name : Path → String
  | mk _ name _ => name

/-- The name of a path that is nothing but a name. -/
def identifier? : Path → Option String
  | mk [] name .absent => some name
  | _ => none

/-- A path of one name. -/
def ofName (name : String) : Path := mk [] name .absent

end Path

end QueryMethods.Syntax
