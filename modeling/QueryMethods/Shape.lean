/-
The shape of a declared type, as far as reading results depends on it.

Scalars keep the name they were spelled with.  Types that are neither built in nor a
container of one argument are known by their text alone.
-/

namespace QueryMethods

/-- The kinds of scalar values with a conversion of their own. -/
inductive ScalarKind
  | text
  | int
  | long
  | double
  | bool
  | decimal
  deriving DecidableEq, Repr, Inhabited

/-- The shape of a declared type. -/
inductive Shape
  /-- No value. -/
  | unit
  /-- A scalar, with the name it was spelled with. -/
  | scalar (kind : ScalarKind) (name : String)
  /-- Any number of elements. -/
  | sequence (element : Shape)
  /-- One element or none. -/
  | optional (element : Shape)
  /-- Values by key. -/
  | map (key value : Shape)
  /-- A type of the user. -/
  | named (path : String)
  /-- Anything else, by its text. -/
  | other (text : String)
  deriving DecidableEq, Repr, Inhabited

namespace Shape

/-- Whether values of the shape are bound as a list. -/
def isSequence : Shape → Bool
  | sequence _ => true
  | _ => false

/-- Whether the shape is a map with keys of text. -/
def isTextMap : Shape → Bool
  | map (scalar .text _) _ => true
  | _ => false

/-- How the shape is spelled in messages. -/
def spelling : Shape → String
  | unit => "()"
  | scalar _ name => name
  | named path => path
  | other text => text
  | sequence element => "Vec<" ++ element.spelling ++ ">"
  | optional element => "Option<" ++ element.spelling ++ ">"
  | map key value => "HashMap<" ++ key.spelling ++ ", " ++ value.spelling ++ ">"

end Shape

end QueryMethods
