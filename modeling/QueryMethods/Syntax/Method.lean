/-
Methods as they are written.

A method is its attributes, the words before its name, its name, its parameters, the type
behind its arrow, and the statements of its body.  Statements are kept as tokens: a body
is either left alone or replaced, never looked into.
-/
import QueryMethods.Syntax.Generics
import QueryMethods.Syntax.PatternReader

namespace QueryMethods.Syntax

open Reader

/-- What a method takes. -/
inductive Input
  /-- The value that the method belongs to. -/
  | receiver (attributes : List Attribute) (tokens : List Token)
  /-- A parameter with a type. -/
  | typed (attributes : List Attribute) (pattern : Pattern) (type : Ty)
  /-- Any number of further values. -/
  | variadic (tokens : List Token)

/-- What stands before the body of a method. -/
structure Header where
  /-- The words before `fn`. -/
  marks : List Token
  name : String
  generics : Generics
  /-- The parameters, each with whether a comma follows it. -/
  inputs : List (Input × Bool)
  /-- The type behind the arrow, if there is one. -/
  result : Option Ty

/-- A method with a body. -/
structure Method where
  attributes : List Attribute
  /-- Who may use the method, and whether it is a default. -/
  marks : List Token
  header : Header
  /-- The statements of the body. -/
  body : List (List Token)

namespace Input

/-- The tokens of a parameter. -/
def tokens : Input → List Token
  | receiver attributes ts => outerTokens attributes ++ ts
  | typed attributes pattern t =>
    outerTokens attributes ++ pattern.tokens ++ .sign ':' false :: t.tokens
  | variadic ts => ts

/-- Whether a parameter is the value that the method belongs to. -/
def isReceiver : Input → Bool
  | receiver .. => true
  | _ => false

/-- Whether a parameter takes any number of further values. -/
def isVariadic : Input → Bool
  | variadic _ => true
  | _ => false

end Input

namespace Header

/-- Whether the method waits for something. -/
def isAsync (h : Header) : Bool := h.marks.any (fun t => match t with
  | .word w => w == "async"
  | _ => false)

/-- Whether the method belongs to a value. -/
def hasReceiver (h : Header) : Bool := h.inputs.any (·.1.isReceiver)

/-- The tokens of a header. -/
def tokens (h : Header) : List Token :=
  h.marks ++ [.word "fn", .word h.name] ++ h.generics.declarations ++
    [.group .parenthesis (joined (h.inputs.map (fun (i, c) => (i.tokens, c))))] ++
    (match h.result with
      | some t => operator "->" ++ t.tokens
      | none => []) ++
    h.generics.conditions

end Header

/-- The tokens of a method. -/
def Method.tokens (m : Method) : List Token :=
  outerTokens m.attributes ++ m.marks ++ m.header.tokens ++
    [.group .brace (innerTokens m.attributes ++ m.body.flatten)]

/-- Whether receivers stand nowhere but in front and further values nowhere but at the
end. -/
def wellPlaced (inputs : List (Input × Bool)) : Bool :=
  !(inputs.drop 1).any (·.1.isReceiver) && !inputs.dropLast.any (·.1.isVariadic)

/-- Reads the words before `fn`. -/
def readHeaderMarks : Reader (List Token) :=
  inTurn [optionalWord "const", optionalWord "async", optionalWord "unsafe",
    when (nextWord "extern") do
      let mark ← word "extern"
      let ts ← get
      if startsLiteral ts then pure (mark ++ (← readLiteralExpression).tokens) else pure mark]

/-- Whether a header begins here. -/
def startsHeader (ts : List Token) : Bool :=
  match readHeaderMarks.run ts with
  | .ok (_, rest) => startsWord "fn" rest
  | .error _ => false

namespace Grammar

variable (g : Grammar)

/-- Reads the value that a method belongs to. -/
def readReceiver : Reader (List Token) := do
  if ← nextSign "&" then
    inTurn [sign "&", when (next startsLifetime) lifetime, optionalWord "mut", word "self"]
  else
    let self ← inTurn [optionalWord "mut", word "self"]
    let type ← when (nextSign ":") (do let colon ← sign ":"; pure (colon ++ (← g.typeTokens)))
    pure (self ++ type)

/-- Reads a parameter.  A type with arguments may stand alone and then has no name. -/
def readInput : Reader Input := do
  let attributes ← g.readOuterAttributes
  if ← nextSign "..." then pure (.variadic (outerTokens attributes ++ (← sign "...")))
  else
    match ← attempt g.readReceiver with
    | some ts => pure (.receiver attributes ts)
    | none =>
      let ts ← get
      if startsIdentifier ts && startsSign "<" (behind ts) then
        pure (.typed attributes ⟨[.word "_"], none⟩ (← g.type true))
      else
        let pattern ← g.pattern
        let colon ← sign ":"
        if ← nextSign "..." then
          pure (.variadic (outerTokens attributes ++ pattern.tokens ++ colon ++ (← sign "...")))
        else pure (.typed attributes pattern (← g.type true))

/-- Reads what stands before the body of a method. -/
def readHeader : Reader Header := do
  let marks ← readHeaderMarks
  let _ ← word "fn"
  let name ← identifier
  let generics ← g.readGenerics
  let inputs ← inside .parenthesis (separated atEnd g.readInput)
  if !wellPlaced inputs then fail .leftOver
  else
    let result ← if ← nextSign "->" then do
        let _ ← sign "->"
        pure (some (← g.type true))
      else pure none
    let conditions ← g.readConditions
    pure ⟨marks, name, { generics with conditions }, inputs, result⟩

/-- Reads a method behind its attributes; without a body it is no method. -/
def readMethod (attributes : List Attribute) : Reader (Option Method) := do
  let marks ← inTurn [readVisibility, optionalWord "default"]
  let header ← g.readHeader
  if ← nextSign ";" then
    let _ ← sign ";"
    pure none
  else
    let (inner, body) ← inside .brace do
      let inner ← g.readInnerAttributes
      pure (inner, ← g.body)
    pure (some ⟨attributes ++ inner, marks, header, body⟩)

end Grammar

end QueryMethods.Syntax
