/-
Blocks of methods as they are written.

A block is a header, which says what the methods belong to, and its items.  Only methods
with a body are told apart; every other item is a row of tokens.
-/
import QueryMethods.Syntax.StatementReader

namespace QueryMethods.Syntax

open Reader

/-- An item of a block. -/
inductive ImplItem
  | method (m : Method)
  | other (tokens : List Token)

/-- What stands before the items of a block. -/
structure ImplHeader where
  attributes : List Attribute
  /-- The words before `impl`. -/
  marks : List Token
  generics : Generics
  /-- The trait that is implemented, if it is one. -/
  trait : Option (List Token)
  /-- The type that the methods belong to. -/
  target : List Token

/-- A block of methods. -/
structure ImplBlock where
  header : ImplHeader
  items : List ImplItem

/-- The tokens of an item. -/
def ImplItem.tokens : ImplItem → List Token
  | method m => m.tokens
  | other ts => ts

/-- The tokens of what stands before the items. -/
def ImplHeader.tokens (h : ImplHeader) : List Token :=
  outerTokens h.attributes ++ h.marks ++ [.word "impl"] ++ h.generics.declarations ++
    (match h.trait with
      | some path => path ++ [.word "for"]
      | none => []) ++
    h.target ++ h.generics.conditions

/-- The tokens of a block. -/
def ImplBlock.tokens (b : ImplBlock) : List Token :=
  b.header.tokens ++
    [.group .brace (innerTokens b.header.attributes ++ b.items.flatMap ImplItem.tokens)]

/-- Whether angle brackets behind `impl` declare parameters rather than open a type. -/
def declaresParameters (ts : List Token) : Bool :=
  let second := behind ts
  let third := behind second
  startsSign "<" ts &&
    (startsSign ">" second || startsSign "#" second || startsWord "const" second ||
      ((startsLifetime second || startsIdentifier second) &&
        (startsSign ">" third || startsSign "," third ||
          (startsSign ":" third && !startsSign "::" third) || startsSign "=" third)))

namespace Grammar

variable (g : Grammar)

/-- Reads a constant of a block. -/
def readAssociatedConstant : Reader (List Token) := do
  let opening ← word "const"
  let name ← if ← nextWord "_" then anyWord else identifier
  let generics ← g.readGenerics
  let type ← inTurn [sign ":", g.typeTokens]
  let value ← when (nextSign "=") (do let mark ← sign "="; pure (mark ++ (← g.expressionTokens)))
  let conditions ← g.readConditions
  pure (opening ++ [.word name] ++ generics.declarations ++ type ++ value ++ conditions ++
    (← sign ";"))

/-- Reads a type of a block. -/
def readAssociatedType : Reader (List Token) := do
  let opening ← word "type"
  let name ← identifier
  let generics ← g.readGenerics
  let bounds ← when (nextSign ":") do
    let colon ← sign ":"
    pure (colon ++ (← g.readBoundsWhile (fun ts => !endsBounds ts && !startsWord "where" ts)))
  let early ← g.readConditions
  let value ← when (nextSign "=") (do let mark ← sign "="; pure (mark ++ (← g.typeTokens)))
  let late ← g.readConditions
  pure (opening ++ [.word name] ++ generics.declarations ++ bounds ++ early ++ value ++ late ++
    (← sign ";"))

/-- Reads an item of a block. -/
def readImplItem : Reader ImplItem := do
  let before ← get
  let attributes ← g.readOuterAttributes
  let ts ← get
  let marks ← inTurn [readVisibility, optionalWord "default"]
  let rest ← get
  if startsHeader rest then
    set ts
    match ← g.readMethod attributes with
    | some m => pure (.method m)
    | none => pure (.other (before.take (before.length - (← get).length)))
  else if startsWord "const" rest then
    pure (.other (outerTokens attributes ++ marks ++ (← g.readAssociatedConstant)))
  else if startsWord "type" rest then
    pure (.other (outerTokens attributes ++ marks ++ (← g.readAssociatedType)))
  else if marks.isEmpty then
    let path ← readPlainPath
    let mark ← sign "!"
    let (d, inner) ← readAnyGroup
    let semicolon ← if d == .brace then pure [] else sign ";"
    pure (.other (outerTokens attributes ++ path.tokens ++ mark ++ [.group d inner] ++ semicolon))
  else expected "one of: `fn`, `const`, `type`"

/-- Reads the trait and the type of a block. -/
def readTarget : Reader (Option (List Token) × List Token) := do
  let negation ← when (next (fun ts => startsSign "!" ts && !startsGroup .brace (behind ts)))
    (sign "!")
  let first ← g.type true
  if ← nextWord "for" then
    let _ ← word "for"
    match first with
    | .path p => pure (some (negation ++ p.tokens), ← g.typeTokens)
    | _ => fail (.expected "trait path")
  else pure (none, negation ++ first.tokens)

/-- Reads a block of methods. -/
def readImplBlock : Reader ImplBlock := do
  let attributes ← g.readOuterAttributes
  let marks ← inTurn [optionalWord "default", optionalWord "unsafe"]
  let _ ← word "impl"
  let generics ← if declaresParameters (← get) then g.readGenerics else pure .none
  let (trait, target) ← g.readTarget
  let conditions ← g.readConditions
  let (inner, items) ← inside .brace do
    let inner ← g.readInnerAttributes
    pure (inner, ← repeatUntil atEnd g.readImplItem)
  pure ⟨⟨attributes ++ inner, marks, { generics with conditions }, trait, target⟩, items⟩

end Grammar

end QueryMethods.Syntax
