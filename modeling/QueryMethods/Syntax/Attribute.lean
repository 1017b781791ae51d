/-
Attributes of items, fields and parameters.

An attribute is a path with nothing, a group of tokens or a value behind it.  The tokens
of a group are kept as they are, since only whoever the attribute is for knows how to read
them.
-/
import QueryMethods.Syntax.Grammar

namespace QueryMethods.Syntax

/-- A path of plain names. -/
structure PlainPath where
  /-- Whether it begins with a double colon. -/
  absolute : Bool
  names : List String
  deriving DecidableEq, Repr, Inhabited

/-- What follows the path of an attribute. -/
inductive AttributeBody
  | nothing
  | list (d : Delimiter) (tokens : List Token)
  | value (e : Expression)

/-- A path with what follows it. -/
structure Meta where
  path : PlainPath
  body : AttributeBody

/-- An attribute: one of what follows it, or an inner one, of what it stands in. -/
structure Attribute where
  isInner : Bool
  content : Meta

/-- The tokens of names with double colons between them. -/
def nameTokens : List String → List Token
  | [] => []
  | [name] => [.word name]
  | name :: names => .word name :: operator "::" ++ nameTokens names

namespace PlainPath

/-- Whether a path is nothing but a given name. -/
def isName (p : PlainPath) (name : String) : Bool := !p.absolute && p.names == [name]

/-- The names of a path with double colons between them. -/
def text (p : PlainPath) : String := String.intercalate "::" p.names

/-- The tokens of a path. -/
def tokens (p : PlainPath) : List Token :=
  (if p.absolute then operator "::" else []) ++ nameTokens p.names

end PlainPath

/-- The tokens of a path with what follows it. -/
def Meta.tokens (m : Meta) : List Token :=
  m.path.tokens ++ match m.body with
    | .nothing => []
    | .list d ts => [.group d ts]
    | .value e => .sign '=' false :: e.tokens

namespace Attribute

/-- The path of an attribute. -/
def path (a : Attribute) : PlainPath := a.content.path

/-- The tokens of an attribute. -/
def tokens (a : Attribute) : List Token :=
  .sign '#' false :: (if a.isInner then [.sign '!' false] else []) ++
    [.group .bracket a.content.tokens]

end Attribute

/-- The tokens of the attributes of what follows them. -/
def outerTokens (attributes : List Attribute) : List Token :=
  (attributes.filter (!·.isInner)).flatMap Attribute.tokens

/-- The tokens of the attributes of what they stand in. -/
def innerTokens (attributes : List Attribute) : List Token :=
  (attributes.filter (·.isInner)).flatMap Attribute.tokens

/-! ### Reading -/

/-- The value of the literal at the front, if there is one; a number may have a minus. -/
def leadingLiteral : List Token → Option (Expression × List Token)
  | .literal l :: rest => some (⟨.literal (.plain l), [.literal l]⟩, rest)
  | .word "true" :: rest => some (⟨.literal (.bool true), [.word "true"]⟩, rest)
  | .word "false" :: rest => some (⟨.literal (.bool false), [.word "false"]⟩, rest)
  | .sign '-' _ :: .literal l :: rest =>
    if l.kind == .integer || l.kind == .float then
      some (⟨.literal (.plain ⟨"-" ++ l.spelling, l.kind⟩), [.sign '-' false, .literal l]⟩, rest)
    else none
  | _ => none

/-- Takes a literal; a number may have a minus. -/
def readLiteralExpression : Reader Expression := do
  match leadingLiteral (← get) with
  | some (e, rest) => set rest; pure e
  | none => Reader.expected "literal"

/-- Whether a path of plain names may begin here or go on. -/
def startsPlainName (ts : List Token) : Bool :=
  Reader.startsIdentifier ts ||
    ["super", "self", "Self", "crate"].any (fun w => Reader.startsWord w ts)

/-- Takes names with double colons between them, each of which meets a test; `fuel` bounds
their number. -/
def readNames (test : List Token → Bool) : Nat → Reader (List String)
  | 0 => Reader.fail .leftOver
  | fuel + 1 => do
    if !test (← get) then Reader.expected "path segment after `::`"
    else
      let name ← Reader.anyWord
      if ← Reader.nextSign "::" then
        let _ ← Reader.sign "::"
        pure (name :: (← readNames test fuel))
      else pure [name]

/-- Takes a path of plain names. -/
def readPlainPath : Reader PlainPath := do
  let absolute ← Reader.nextSign "::"
  let _ ← Reader.optionalSign "::"
  let ts ← get
  if startsPlainName ts then pure ⟨absolute, ← readNames startsPlainName ts.length⟩
  else
    let name ← Reader.identifier
    pure ⟨absolute, [name]⟩

/-- Takes a group of any brackets, its tokens as they are. -/
def readAnyGroup : Reader (Delimiter × List Token) := do
  match ← get with
  | .group d ts :: rest => set rest; pure (d, ts)
  | _ => Reader.expected "delimiter"

namespace Grammar

variable (g : Grammar)

/-- Takes the value of an attribute: a literal with nothing behind it, or an expression. -/
def readValue : Reader Expression := do
  let ts ← get
  match leadingLiteral ts with
  | some (e, []) => set ([] : List Token); pure e
  | _ =>
    if Reader.startsSign "#" ts && Reader.startsGroup .bracket (Reader.behind ts) then
      Reader.fail .attributeInside
    else g.expression true

/-- Takes what follows the path of an attribute. -/
def readAttributeBody : Reader AttributeBody := do
  match ← get with
  | .group d ts :: rest => set rest; pure (.list d ts)
  | ts =>
    if Reader.startsSign "=" ts then
      let _ ← Reader.sign "="
      pure (.value (← g.readValue))
    else pure .nothing

/-- Takes what stands inside the brackets of an attribute. -/
def readMeta : Reader Meta := do
  let path ← if ← Reader.nextWord "unsafe" then
      let name ← Reader.anyWord
      pure ⟨false, [name]⟩
    else readPlainPath
  pure ⟨path, ← g.readAttributeBody⟩

/-- Takes the attributes of what follows them. -/
def readOuterAttributes : Reader (List Attribute) :=
  Reader.repeatUntil (do pure !(← Reader.nextSign "#")) do
    let _ ← Reader.sign "#"
    pure ⟨false, ← Reader.inside .bracket g.readMeta⟩

/-- Takes the attributes of what they stand in. -/
def readInnerAttributes : Reader (List Attribute) :=
  let more (ts : List Token) : Bool :=
    Reader.startsSign "#" ts && Reader.startsSign "!" (Reader.behind ts)
  Reader.repeatUntil (Reader.next (fun ts => !more ts)) do
    let _ ← Reader.sign "#"
    let _ ← Reader.sign "!"
    pure ⟨true, ← Reader.inside .bracket g.readMeta⟩

/-- The tokens of the attributes of what follows them. -/
def attributeTokens : Reader (List Token) := do pure (outerTokens (← g.readOuterAttributes))

/-- The tokens of a block. -/
def blockTokens : Reader (List Token) :=
  Reader.wrapped .brace do
    let attributes ← g.readInnerAttributes
    pure (innerTokens attributes ++ (← g.body).flatten)

end Grammar

end QueryMethods.Syntax
