/-
Reading the statements of a body, and the knot of the grammar.

A statement is kept as its tokens.  An expression without a semicolon ends a statement if
it stands alone or if it is the last one.  Items in a body are read as far as their braces
or their semicolon; only functions and records are read in full.
-/
import QueryMethods.Syntax.ExpressionReader
import QueryMethods.Syntax.Method

namespace QueryMethods.Syntax

open Reader

/-- The words that open an item which ends with a semicolon. -/
def plainItemWords : List String := ["use", "static", "type"]

/-- Whether a constant is declared here. -/
def startsConstant (ts : List Token) : Bool :=
  startsWord "const" ts && !startsGroup .brace (behind ts) && !startsClosure (behind ts) &&
    !startsSign "|" (behind ts)

/-- Whether an item begins behind its visibility. -/
def startsItem (ts : List Token) : Bool :=
  startsWord "pub" ts || startsHeader ts || startsConstant ts ||
  (startsWord "unsafe" ts && !startsGroup .brace (behind ts)) ||
  (startsWord "static" ts && (startsWord "mut" (behind ts) || startsIdentifier (behind ts))) ||
  ["use", "type", "mod", "struct", "enum", "trait", "impl", "macro", "extern"].any
    (fun w => startsWord w ts) ||
  (startsWord "union" ts && startsIdentifier (behind ts)) ||
  (startsWord "auto" ts && startsWord "trait" (behind ts)) ||
  (startsWord "default" ts && (startsWord "unsafe" (behind ts) || startsWord "impl" (behind ts)))

/-- Takes tokens up to braces or a semicolon, which are taken too; `fuel` bounds their
number. -/
def readItemRest : Nat → Reader (List Token)
  | 0 => fail .leftOver
  | fuel + 1 => do
    let ts ← get
    if startsSign ";" ts then sign ";"
    else if startsGroup .brace ts then anyToken
    else do
      let t ← anyToken
      pure (t ++ (← readItemRest fuel))

/-- Takes tokens up to a semicolon, which is taken too; `fuel` bounds their number. -/
def readPlainItemRest : Nat → Reader (List Token)
  | 0 => fail .leftOver
  | fuel + 1 => do
    if ← nextSign ";" then sign ";"
    else
      let t ← anyToken
      pure (t ++ (← readPlainItemRest fuel))

/-- The plain path and the mark of a macro, if one is called here; with what follows. -/
def macroAhead (ts : List Token) : Option (List Token × List Token) :=
  match readPlainPath.run ts with
  | .ok (p, .sign '!' false :: rest) => some (p.tokens ++ [.sign '!' false], rest)
  | _ => none

namespace Grammar

variable (g : Grammar)

/-- Reads a field of a record. -/
def readFieldTokens : Reader (List Token) := do
  let attributes ← g.attributeTokens
  let opening ← inTurn [readVisibility, readMember, sign ":"]
  pure (attributes ++ opening ++ (← g.typeTokens))

/-- Reads a field without a name. -/
def readTupleField : Reader (List Token) := do
  let attributes ← g.attributeTokens
  let visibility ← readVisibility
  pure (attributes ++ visibility ++ (← g.typeTokens))

/-- Reads a record behind its visibility. -/
def readRecordItem : Reader (List Token) := do
  let opening ← word "struct"
  let name ← identifier
  let generics ← g.readGenerics
  let conditions ← g.readConditions
  let head := opening ++ [.word name] ++ generics.declarations
  let ts ← get
  if startsGroup .brace ts then
    pure (head ++ conditions ++ (← wrapped .brace (Reader.list g.readFieldTokens)))
  else if startsGroup .parenthesis ts then
    let fields ← wrapped .parenthesis (Reader.list g.readTupleField)
    let late ← g.readConditions
    pure (head ++ fields ++ late ++ (← sign ";"))
  else pure (head ++ conditions ++ (← sign ";"))

/-- Reads a constant behind its visibility. -/
def readConstantItem : Reader (List Token) := do
  let opening ← inTurn [word "const", do pure [.word (← anyWord)], sign ":", g.typeTokens]
  let value ← when (nextSign "=") (do let mark ← sign "="; pure (mark ++ (← g.expressionTokens)))
  pure (opening ++ value ++ (← sign ";"))

/-- Reads an item behind its attributes. -/
def readItem : Reader (List Token) := do
  let visibility ← readVisibility
  let ts ← get
  if startsHeader ts then
    match ← g.readMethod [] with
    | some m => pure (visibility ++ m.tokens)
    | none => fail .leftOver
  else if startsWord "struct" ts then pure (visibility ++ (← g.readRecordItem))
  else if startsConstant ts then pure (visibility ++ (← g.readConstantItem))
  else if plainItemWords.any (fun w => startsWord w ts) then
    pure (visibility ++ (← readPlainItemRest ts.length))
  else pure (visibility ++ (← readItemRest ts.length))

/-- Reads a declaration behind its attributes. -/
def readLocal : Reader (List Token) := do
  let opening ← word "let"
  let pattern := (← g.pattern).tokens
  let type ← when (nextSign ":") (do let colon ← sign ":"; pure (colon ++ (← g.typeTokens)))
  let value ← when (nextSign "=") do
    let mark ← sign "="
    let e ← g.expression true
    let ended := match e.tokens.getLast? with
      | some (.group .brace _) => true
      | _ => false
    let other ← when (do pure (!ended && (← nextWord "else")))
      (inTurn [word "else", g.blockTokens])
    pure (mark ++ e.tokens ++ other)
  pure (opening ++ pattern ++ type ++ value ++ (← sign ";"))

/-- Reads a statement that is an expression, and whether it may stand before another one. -/
def readExpressionStatement : Reader (List Token × Bool) := do
  let e ← g.early
  let semicolon ← optionalSign ";"
  let complete := match e.kind with
    | .macroCall braces => braces
    | kind => kind.standsAlone
  pure (e.tokens ++ semicolon, complete || !semicolon.isEmpty)

/-- Reads a statement, and whether it may stand before another one. -/
def readStatement : Reader (List Token × Bool) := do
  let attributes ← g.attributeTokens
  let ts ← get
  let plain (r : Reader (List Token)) : Reader (List Token × Bool) := do
    pure (attributes ++ (← r), true)
  let expression : Reader (List Token × Bool) := do
    let (tokens, complete) ← g.readExpressionStatement
    pure (attributes ++ tokens, complete)
  match macroAhead ts with
  | some (path, .word name :: .group d inner :: rest) =>
    set rest
    plain do
      let semicolon ← if d == .brace then pure [] else sign ";"
      pure (path ++ [.word name, .group d inner] ++ semicolon)
  | some (path, .group .brace inner :: rest) =>
    if startsMember rest || startsSign "?" rest then expression
    else
      set rest
      plain (do pure (path ++ [.group .brace inner] ++ (← optionalSign ";")))
  | _ =>
    if startsWord "let" ts then plain g.readLocal
    else if startsItem ts then plain g.readItem
    else expression

/-- Reads statements up to the end; `fuel` bounds their number. -/
def readStatements : Nat → Reader (List (List Token))
  | 0 => fail .leftOver
  | fuel + 1 => do
    if ← nextSign ";" then
      let semicolon ← sign ";"
      pure (semicolon :: (← readStatements fuel))
    else if ← atEnd then pure []
    else
      let (tokens, complete) ← g.readStatement
      if (← atEnd) then pure [tokens]
      else if complete then pure (tokens :: (← readStatements fuel))
      else expected "`;`"

/-- Reads the statements of a body. -/
def readBody : Reader (List (List Token)) := do g.readStatements ((← get).length + 1)

/-- The grammar whose productions stand at most `depth` deep inside each other. -/
def ofDepth : Nat → Grammar
  | 0 => empty
  | depth + 1 =>
    let g := ofDepth depth
    { type := g.readType
      bound := g.readBound
      expression := g.readExpression
      early := g.readEarly
      operand := g.readOperand
      operators := g.readOperators
      pattern := g.readPattern
      body := g.readBody }

/-- The grammar that suffices for a row of tokens: a token is the reason for at most five
productions. -/
def forTokens (ts : List Token) : Grammar := ofDepth (5 * (rowSize ts + 2))

end Grammar

end QueryMethods.Syntax
