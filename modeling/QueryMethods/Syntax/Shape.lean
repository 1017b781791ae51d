/-
The shape of a written type, and the types inside it that results are read as.

Names of types are taken as they are written: whatever its path, a type whose last name is
`Vec` is a list.  References, brackets and the usual owners of one value are looked
through.
-/
import QueryMethods.Syntax.Type
import QueryMethods.Shape

namespace QueryMethods.Syntax

/-- The kind of a scalar type with a conversion of its own. -/
def scalarKind? (name : String) : Option ScalarKind :=
  if name ∈ ["String", "str", "char"] then some .text
  else if name ∈ ["i8", "i16", "i32", "u8", "u16"] then some .int
  else if name ∈ ["i64", "u32", "u64", "isize", "usize"] then some .long
  else if name ∈ ["f32", "f64"] then some .double
  else if name = "bool" then some .bool
  else if name = "Decimal" then some .decimal
  else none

/-- The types that hold any number of elements. -/
def sequenceNames : List String := ["Vec", "VecDeque", "HashSet", "BTreeSet"]

/-- The types that hold values by key. -/
def mapNames : List String := ["HashMap", "BTreeMap"]

/-- The types that own one value and are otherwise like it. -/
def ownerNames : List String := ["Box", "Arc", "Rc", "Cow"]

/-- The shape of a path from its last name and the shapes of its type arguments. -/
def shapeOfPath (spelling name : String) (arguments : List Shape) : Shape :=
  match arguments with
  | [] =>
    match scalarKind? name with
    | some kind => .scalar kind name
    | none => .named spelling
  | first :: rest =>
    if name ∈ sequenceNames then .sequence first
    else
      match rest with
      | [] =>
        if name = "Option" then .optional first
        else if name ∈ ownerNames then first
        else .other spelling
      | second :: _ => if name ∈ mapNames then .map first second else .other spelling

mutual

/-- The shape of a type. -/
def Ty.shape : Ty → Shape
  | .reference _ inner => inner.shape
  | .parens inner => inner.shape
  | .unit => .unit
  | .slice element => .sequence element.shape
  | .array element _ => .sequence element.shape
  | .path p => p.shape
  | .qualified opening p => .other (denseText (opening ++ p.tokens))
  | .other ts => .other (denseText ts)

/-- The shape of a path. -/
def Path.shape : Path → Shape
  | .mk before name arguments =>
    shapeOfPath (denseText (before ++ .word name :: arguments.tokens)) name arguments.shapes

/-- The shapes of the type arguments. -/
def Arguments.shapes : Arguments → List Shape
  | .absent => []
  | .angled _ items => argumentShapes items
  | .parenthesised _ => []

/-- The shapes of the types among arguments. -/
def argumentShapes : List Argument → List Shape
  | [] => []
  | .type t _ :: rest => t.shape :: argumentShapes rest
  | .other _ _ :: rest => argumentShapes rest
  | .lifetime _ _ :: rest => argumentShapes rest

end

/-- The first type among arguments. -/
def firstType : List Argument → Option Ty
  | [] => none
  | .type t _ :: _ => some t
  | _ :: rest => firstType rest

/-- The first type argument of a path. -/
def Path.firstArgument : Path → Option Ty
  | .mk _ _ (.angled _ items) => firstType items
  | .mk _ _ _ => none

namespace Ty

/-- The type without the references and brackets around it. -/
def bare : Ty → Ty
  | reference _ inner => inner.bare
  | parens inner => inner.bare
  | t => t

/-- The path of a type that is one, qualified or not. -/
def path? : Ty → Option Path
  | path p => some p
  | qualified _ p => some p
  | _ => none

/-- The type that a result holds when it is none of an error. -/
def resultOk (t : Ty) : Option Ty :=
  match t.bare.path? with
  | some p => if p.name = "Result" then p.firstArgument else none
  | none => none

/-- The type of the elements, judged by the outermost brackets or arguments. -/
def firstArgument (t : Ty) : Option Ty :=
  match t.bare with
  | slice element => some element
  | array element _ => some element
  | path p => p.firstArgument
  | qualified _ p => p.firstArgument
  | _ => none

end Ty

end QueryMethods.Syntax
