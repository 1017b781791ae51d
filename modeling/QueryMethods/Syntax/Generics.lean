/-
Generic parameters and the conditions on them.

An item that implements something repeats the parameters of its type twice: once where
they are declared, without their defaults, and once as arguments, by their names alone.
Lifetimes come first in every form.
-/
import QueryMethods.Syntax.TypeReader

namespace QueryMethods.Syntax

open Reader

/-- A generic parameter. -/
inductive GenericParameter
  /-- A lifetime, with the lifetimes that it outlives. -/
  | lifetime (attributes name bounds : List Token)
  /-- A type, with its bounds and its default. -/
  | type (attributes : List Token) (name : String) (bounds defaults : List Token)
  /-- A constant, with its type and its default. -/
  | const (attributes : List Token) (name : String) (type defaults : List Token)

/-- Generic parameters, each with whether a comma follows it, and the conditions on them. -/
structure Generics where
  parameters : List (GenericParameter × Bool)
  conditions : List Token

namespace GenericParameter

/-- Whether a parameter is a lifetime. -/
def isLifetime : GenericParameter → Bool
  | lifetime .. => true
  | _ => false

/-- What follows a mark, unless nothing does. -/
def marked (mark : Char) (ts : List Token) : List Token :=
  if ts.isEmpty then [] else .sign mark false :: ts

/-- The declaration of a parameter; the flag says whether its default is repeated. -/
def declaration (withDefault : Bool) : GenericParameter → List Token
  | lifetime attributes name bounds => attributes ++ name ++ marked ':' bounds
  | type attributes name bounds defaults =>
    attributes ++ .word name :: marked ':' bounds ++
      (if withDefault then marked '=' defaults else [])
  | const attributes name kind defaults =>
    attributes ++ [.word "const", .word name, .sign ':' false] ++ kind ++
      (if withDefault then marked '=' defaults else [])

/-- The name of a parameter. -/
def reference : GenericParameter → List Token
  | lifetime _ name _ => name
  | type _ name _ _ => [.word name]
  | const _ name _ _ => [.word name]

end GenericParameter

namespace Generics

/-- No parameters. -/
def none : Generics := ⟨[], []⟩

/-- Parameters in angle brackets, lifetimes first, or nothing if there are none. -/
def bracketed (form : GenericParameter → List Token) (gs : Generics) : List Token :=
  let lifetimes := gs.parameters.filter (·.1.isLifetime)
  let others := gs.parameters.filter (!·.1.isLifetime)
  let write (items : List (GenericParameter × Bool)) := joined (items.map (fun (p, c) => (form p, c)))
  if gs.parameters.isEmpty then []
  else
    let bare := lifetimes.getLast?.any (!·.2) && !others.isEmpty
    .sign '<' false :: write lifetimes ++ commaIf bare ++ write others ++ [.sign '>' false]

/-- The parameters as they are declared. -/
def declarations (gs : Generics) : List Token := gs.bracketed (·.declaration true)

/-- The parameters as they are declared where they may have no defaults. -/
def plainDeclarations (gs : Generics) : List Token := gs.bracketed (·.declaration false)

/-- The parameters by their names. -/
def references (gs : Generics) : List Token := gs.bracketed (·.reference)

end Generics

/-- Reads who may use an item. -/
def readVisibility : Reader (List Token) := do
  match ← get with
  | .word "pub" :: .group .parenthesis [.word w] :: rest =>
    if w == "crate" || w == "self" || w == "super" then
      set rest
      pure [.word "pub", .group .parenthesis [.word w]]
    else word "pub"
  | .word "pub" :: .group .parenthesis (.word "in" :: inner) :: rest =>
    match readAll readPlainPath inner with
    | .ok p =>
      set rest
      pure [.word "pub", .group .parenthesis (.word "in" :: p.tokens)]
    | .error e => throw e
  | .word "pub" :: _ => word "pub"
  | _ => pure []

namespace Grammar

variable (g : Grammar)

/-- Reads a generic parameter. -/
def readGenericParameter : Reader GenericParameter := do
  let attributes ← g.attributeTokens
  let ts ← get
  let value (r : Reader (List Token)) : Reader (List Token) := do
    if ← nextSign "=" then
      let _ ← sign "="
      r
    else pure []
  let stop (ts : List Token) : Bool := startsSign "," ts || startsSign ">" ts || startsSign "=" ts
  if startsLifetime ts then
    let name ← lifetime
    if ← nextSign ":" then
      let _ ← sign ":"
      let bounds ← when (next (fun ts => !stop ts))
        (plusSeparated (fun ts => !stop ts) lifetime ts.length)
      pure (.lifetime attributes name bounds)
    else pure (.lifetime attributes name [])
  else if startsWord "const" ts then
    let _ ← word "const"
    let name ← identifier
    let _ ← sign ":"
    let type ← g.typeTokens
    pure (.const attributes name type (← value g.readConstant))
  else if startsIdentifier ts || startsWord "_" ts then
    let name ← anyWord
    if ← nextSign ":" then
      let _ ← sign ":"
      let bounds ← g.readBoundsWhile (fun ts => !stop ts)
      pure (.type attributes name bounds (← value g.typeTokens))
    else pure (.type attributes name [] (← value g.typeTokens))
  else expected "one of: lifetime, identifier, `const`, `_`"

/-- Reads generic parameters, if there are some. -/
def readGenerics : Reader Generics := do
  if ← nextSign "<" then
    let _ ← sign "<"
    let parameters ← separated (nextSign ">") g.readGenericParameter
    let _ ← sign ">"
    pure ⟨parameters, []⟩
  else pure .none

/-- Reads one condition on generic parameters. -/
def readCondition : Reader (List Token) := do
  let ts ← get
  if startsLifetime ts && startsSign ":" (behind ts) then
    let opening ← inTurn [lifetime, sign ":"]
    let more (ts : List Token) : Bool := !endsBounds ts
    pure (opening ++ (← when (next more) (plusSeparated more lifetime ts.length)))
  else
    let opening ← inTurn [g.readBoundLifetimes, g.typeTokens, sign ":"]
    pure (opening ++ (← g.readBoundsWhile (fun ts => !endsBounds ts)))

/-- Reads conditions with commas between them; `fuel` bounds their number. -/
def readConditionList : Nat → Reader (List Token)
  | 0 => fail .leftOver
  | fuel + 1 => do
    if endsBounds (← get) then pure []
    else
      let condition ← g.readCondition
      if ← nextSign "," then
        let comma ← sign ","
        pure (condition ++ comma ++ (← readConditionList fuel))
      else pure condition

/-- Reads the conditions on generic parameters, if there are some. -/
def readConditions : Reader (List Token) := do
  if ← nextWord "where" then
    let mark ← word "where"
    let conditions ← g.readConditionList ((← get).length + 1)
    pure (if conditions.isEmpty then [] else mark ++ conditions)
  else pure []

end Grammar

end QueryMethods.Syntax
