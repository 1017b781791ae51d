/-
Declarations of types as they are written.

A type is a record with named fields, one with numbered fields, one without fields, a
choice, or a union.  Fields matter for the first two alone.
-/
import QueryMethods.Syntax.StatementReader

namespace QueryMethods.Syntax

open Reader

/-- A field of a record. -/
structure Field where
  attributes : List Attribute
  /-- The name, unless the field is numbered. -/
  name : Option String
  type : Ty

/-- What a declared type is made of. -/
inductive TypeBody
  /-- Named fields. -/
  | named (fields : List Field)
  /-- Numbered fields. -/
  | numbered (fields : List Field)
  /-- No fields. -/
  | unit
  /-- One of several cases. -/
  | choice
  /-- Fields in one place. -/
  | union

/-- The declaration of a type. -/
structure TypeDeclaration where
  attributes : List Attribute
  name : String
  generics : Generics
  body : TypeBody

namespace Grammar

variable (g : Grammar)

/-- Reads a named field. -/
def readField : Reader Field := do
  let attributes ← g.readOuterAttributes
  let _ ← readVisibility
  let name ← if ← nextWord "_" then anyWord else identifier
  let _ ← sign ":"
  pure ⟨attributes, some name, ← g.type true⟩

/-- Reads a numbered field. -/
def readNumberedField : Reader Field := do
  let attributes ← g.readOuterAttributes
  let _ ← readVisibility
  pure ⟨attributes, none, ← g.type true⟩

/-- Reads fields with commas between them. -/
def readFields (d : Delimiter) (field : Reader Field) : Reader (List Field) := do
  pure ((← inside d (separated atEnd field)).map (·.1))

/-- Reads the conditions and the fields of a record. -/
def readRecordBody : Reader (List Token × TypeBody) := do
  let early ← g.readConditions
  let ts ← get
  if startsGroup .brace ts then pure (early, .named (← readFields .brace g.readField))
  else if startsGroup .parenthesis ts && early.isEmpty then
    let fields ← readFields .parenthesis g.readNumberedField
    let late ← g.readConditions
    let _ ← sign ";"
    pure (late, .numbered fields)
  else
    let _ ← sign ";"
    pure (early, .unit)

/-- Reads one case of a choice. -/
def readVariant : Reader Unit := do
  let _ ← g.attributeTokens
  let _ ← readVisibility
  let _ ← identifier
  let ts ← get
  if startsGroup .brace ts then
    let _ ← readFields .brace g.readField
  else if startsGroup .parenthesis ts then
    let _ ← readFields .parenthesis g.readNumberedField
  let _ ← when (nextSign "=") (inTurn [sign "=", g.expressionTokens])

/-- Reads the declaration of a type. -/
def readTypeDeclaration : Reader TypeDeclaration := do
  let attributes ← g.readOuterAttributes
  let _ ← readVisibility
  let ts ← get
  let head (w : String) : Reader (String × Generics) := do
    let _ ← word w
    pure (← identifier, ← g.readGenerics)
  if startsWord "struct" ts then
    let (name, generics) ← head "struct"
    let (conditions, body) ← g.readRecordBody
    pure ⟨attributes, name, { generics with conditions }, body⟩
  else if startsWord "enum" ts then
    let (name, generics) ← head "enum"
    let conditions ← g.readConditions
    let _ ← inside .brace (separated atEnd g.readVariant)
    pure ⟨attributes, name, { generics with conditions }, .choice⟩
  else if startsWord "union" ts then
    let (name, generics) ← head "union"
    let conditions ← g.readConditions
    let _ ← readFields .brace g.readField
    pure ⟨attributes, name, { generics with conditions }, .union⟩
  else expected "one of: `struct`, `enum`, `union`"

end Grammar

end QueryMethods.Syntax
