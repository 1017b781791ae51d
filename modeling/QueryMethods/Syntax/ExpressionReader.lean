/-
Reading expressions.

An operand is an atom with calls, fields, indices and question marks behind it, or an
operand with a sign before it.  Operators are then added by precedence: each takes as its
right side the operand behind it and whatever binds tighter.  Before a block no record may
be written, since its braces would be taken for the block.
-/
import QueryMethods.Syntax.PatternReader

namespace QueryMethods.Syntax

open Reader

/-! ### Operators -/

/-- The operators between two operands, the longer before the shorter. -/
def binaryOperators : List (String × Precedence) :=
  [("+=", .assign), ("-=", .assign), ("*=", .assign), ("/=", .assign), ("%=", .assign),
    ("^=", .assign), ("&=", .assign), ("|=", .assign), ("<<=", .assign), (">>=", .assign),
    ("&&", .and), ("||", .or), ("<<", .shift), (">>", .shift), ("==", .compare),
    ("<=", .compare), ("!=", .compare), (">=", .compare), ("+", .sum), ("-", .sum),
    ("*", .product), ("/", .product), ("%", .product), ("^", .bitXor), ("&", .bitAnd),
    ("|", .bitOr), ("<", .compare), (">", .compare)]

/-- The operator between two operands that is next. -/
def nextOperator (ts : List Token) : Option (String × Precedence) :=
  binaryOperators.find? (fun (s, _) => startsSign s ts)

/-- Whether a value is assigned here. -/
def startsAssignment (ts : List Token) : Bool := startsSign "=" ts && !startsSign "=>" ts

/-- The precedence of what is next. -/
def nextPrecedence (ts : List Token) : Precedence :=
  match nextOperator ts with
  | some (_, p) => p
  | none =>
    if startsAssignment ts then .assign
    else if startsSign ".." ts then .range
    else if startsWord "as" ts then .cast
    else .lowest

/-- Whether an expression may begin here. -/
def startsExpression (ts : List Token) : Bool :=
  startsAnyWord ts || startsGroup .parenthesis ts || startsGroup .bracket ts ||
    startsGroup .brace ts || startsLiteral ts ||
    (startsSign "!" ts && !startsSign "!=" ts) ||
    (startsSign "-" ts && !startsSign "-=" ts && !startsSign "->" ts) ||
    (startsSign "*" ts && !startsSign "*=" ts) ||
    (startsSign "|" ts && !startsSign "|=" ts) ||
    (startsSign "&" ts && !startsSign "&=" ts) || startsSign ".." ts ||
    (startsSign "<" ts && !startsSign "<=" ts && !startsSign "<<=" ts) ||
    startsSign "::" ts || startsLifetime ts || startsSign "#" ts

/-- Whether a field or a method is asked for here. -/
def startsMember (ts : List Token) : Bool := startsSign "." ts && !startsSign ".." ts

/-- What follows a cast and would belong to its type, if something does. -/
def castFollower (ts : List Token) : Option String :=
  if startsMember ts then
    let name := behind ts
    if startsWord "await" name then some "`.await`"
    else if startsIdentifier name &&
        (startsGroup .parenthesis (behind name) || startsSign "::" (behind name)) then
      some "a method call"
    else some "a field access"
  else if startsSign "?" ts then some "`?`"
  else if startsGroup .bracket ts then some "indexing"
  else if startsGroup .parenthesis ts then some "a function call"
  else none

/-- Whether a closure begins here. -/
def startsClosure (ts : List Token) : Bool :=
  startsSign "|" ts || startsWord "move" ts || startsWord "static" ts ||
  (startsWord "const" ts && !startsGroup .brace (behind ts)) ||
  (startsWord "async" ts && (startsSign "|" (behind ts) || startsWord "move" (behind ts))) ||
  (startsWord "for" ts && startsSign "<" (behind ts) &&
    (startsLifetime (behindTwo ts) || startsSign ">" (behindTwo ts)))

/-- Whether an asynchronous block begins here. -/
def startsAsyncBlock (ts : List Token) : Bool :=
  startsWord "async" ts && (startsGroup .brace (behind ts) ||
    (startsWord "move" (behind ts) && startsGroup .brace (behindTwo ts)))

/-- Whether a range ends where it has no end. -/
def endsOpenRange (records : Bool) (ts : List Token) : Bool :=
  ts.isEmpty || startsSign "," ts || startsSign ";" ts || startsMember ts ||
    startsSign "?" ts || startsSign "=>" ts || (!records && startsGroup .brace ts) ||
    startsSign "=" ts || startsSign "+" ts || startsSign "/" ts || startsSign "%" ts ||
    startsSign "^" ts || startsSign ">" ts || startsSign "<=" ts || startsSign "!=" ts ||
    startsSign "-=" ts || startsSign "*=" ts || startsSign "&=" ts || startsSign "|=" ts ||
    startsSign "<<=" ts || startsWord "as" ts

/-- Whether a path, a macro or a record begins here. -/
def startsExpressionPath (ts : List Token) : Bool :=
  startsPlainName ts || startsSign "::" ts || startsSign "<" ts ||
  (startsWord "try" ts && (startsSign "!" (behind ts) || startsSign "::" (behind ts)))

/-- The fields that a number with points asks for, one after the other. -/
def pointedFields (spelling : String) : List Token :=
  let parts := (spelling.splitOn ".").map (fun part => [Token.literal ⟨part, .integer⟩])
  List.flatten (parts.intersperse [.sign '.' false])

/-- Whether an expression begins here that is a statement with nothing behind it. -/
def startsBlockLike (ts : List Token) : Bool :=
  ["if", "while", "loop", "match", "unsafe"].any (fun w => startsWord w ts) ||
  (startsWord "for" ts && !startsClosure ts) ||
  (["try", "const"].any (fun w => startsWord w ts) && startsGroup .brace (behind ts)) ||
  startsGroup .brace ts || startsLifetime ts

/-! ### Kinds -/

/-- Whether an expression compares two operands. -/
def comparesOperands (e : Expression) : Bool :=
  match e.kind with
  | .binary compares => compares
  | _ => false

/-- Whether an expression is a range. -/
def isRange (e : Expression) : Bool :=
  match e.kind with
  | .range => true
  | _ => false

namespace Grammar

variable (g : Grammar)

/-! ### Precedence -/

/-- Lets an operand take in whatever binds tighter than `p`, and assignments on the right of
assignments; `fuel` bounds the number of rounds. -/
def extendRight (records : Bool) (p : Precedence) : Nat → Expression → Reader Expression
  | 0, e => pure e
  | fuel + 1, e => do
    let ts ← get
    let q := nextPrecedence ts
    if p.rank < q.rank ∨ (q = .assign ∧ p = .assign) then
      let e ← g.operators records q e
      if (← get).length < ts.length then extendRight records p fuel e else pure e
    else pure e

/-- Reads the right side of an operator. -/
def readRightSide (records : Bool) (p : Precedence) : Reader Expression := do
  let e ← g.operand records
  g.extendRight records p (← get).length e

/-- Reads a range from its sign on. -/
def readRange (records : Bool) (low : List Token) : Reader Expression := do
  let closed ← nextSign "..="
  let dots ← readRangeSign
  if !closed && endsOpenRange records (← get) then pure ⟨.range, low ++ dots⟩
  else pure ⟨.range, low ++ dots ++ (← g.readRightSide records .range).tokens⟩

/-- Adds the next operator to an operand if it is of at least some precedence. -/
def readOperator (records : Bool) (base : Precedence) (e : Expression) :
    Reader (Option Expression) := do
  let ts ← get
  if isRange e then pure none
  else
    match nextOperator ts with
    | some (s, p) =>
      if p.rank < base.rank then pure none
      else if p = .compare ∧ comparesOperands e then fail .chainedComparison
      else
        let mark ← sign s
        let right ← g.readRightSide records p
        pure (some ⟨.binary (p = .compare), e.tokens ++ mark ++ right.tokens⟩)
    | none =>
      if base.rank ≤ Precedence.assign.rank ∧ startsAssignment ts then
        let mark ← sign "="
        let right ← g.readRightSide records .assign
        pure (some ⟨.assignment, e.tokens ++ mark ++ right.tokens⟩)
      else if base.rank ≤ Precedence.range.rank ∧ startsSign ".." ts then
        pure (some (← g.readRange records e.tokens))
      else if startsWord "as" ts then
        let mark ← word "as"
        let t ← g.type false
        match castFollower (← get) with
        | some what => fail (.behindCast what)
        | none => pure (some ⟨.cast, e.tokens ++ mark ++ t.tokens⟩)
      else pure none

/-- Adds operators of at least some precedence to an operand; `fuel` bounds their number. -/
def addOperators (records : Bool) (base : Precedence) : Nat → Expression → Reader Expression
  | 0, e => pure e
  | fuel + 1, e => do
    match ← g.readOperator records base e with
    | some e => addOperators records base fuel e
    | none => pure e

/-- Adds operators of at least some precedence to an operand. -/
def readOperators (records : Bool) (base : Precedence) (e : Expression) : Reader Expression := do
  g.addOperators records base ((← get).length + 1) e

/-- Reads an expression. -/
def readExpression (records : Bool) : Reader Expression := do
  let e ← g.operand records
  g.operators records .lowest e

/-! ### What may stand behind an atom -/

/-- Reads a field, a method call or a wait behind its point. -/
def readMemberOf (e : Expression) : Reader Expression := do
  let point ← sign "."
  match ← get with
  | .literal ⟨spelling, .float⟩ :: rest =>
    set rest
    let whole := spelling.toList.getLast? != some '.'
    let fields := if whole then pointedFields spelling else
      pointedFields (String.ofList spelling.toList.dropLast) ++ point
    if whole then pure ⟨.field, e.tokens ++ point ++ fields⟩
    else pure ⟨.field, e.tokens ++ point ++ fields ++ (← readMember)⟩
  | ts =>
    if startsWord "await" ts then pure ⟨.await, e.tokens ++ point ++ (← word "await")⟩
    else
      let member ← readMember
      let isNamed := startsIdentifier ts
      let turbofish ← when (do pure (isNamed && (← nextSign "::")))
        (do pure (← g.readArguments).tokens)
      if !turbofish.isEmpty || (isNamed && (← nextGroup .parenthesis)) then
        let inputs ← wrapped .parenthesis (Reader.list g.expressionTokens)
        pure ⟨.methodCall, e.tokens ++ point ++ member ++ turbofish ++ inputs⟩
      else pure ⟨.field, e.tokens ++ point ++ member⟩

/-- Adds what stands behind an atom; `fuel` bounds how much. -/
def addTrailers : Nat → Expression → Reader Expression
  | 0, e => pure e
  | fuel + 1, e => do
    let ts ← get
    if startsGroup .parenthesis ts then
      let inputs ← wrapped .parenthesis (Reader.list g.expressionTokens)
      addTrailers fuel ⟨.call, e.tokens ++ inputs⟩
    else if startsMember ts && !isRange e then addTrailers fuel (← g.readMemberOf e)
    else if startsGroup .bracket ts then
      let position ← wrapped .bracket g.expressionTokens
      addTrailers fuel ⟨.index, e.tokens ++ position⟩
    else if startsSign "?" ts && !isRange e then
      addTrailers fuel ⟨.question, e.tokens ++ (← sign "?")⟩
    else pure e

/-- Adds what stands behind an atom. -/
def readTrailers (e : Expression) : Reader Expression := do
  g.addTrailers ((← get).length + 1) e

/-! ### Atoms -/

/-- Reads a field of a record. -/
def readFieldValue : Reader (List Token) := do
  if ← nextSign ".." then
    let dots ← sign ".."
    if ← atEnd then pure dots else pure (dots ++ (← g.expressionTokens))
  else
    let attributes ← g.attributeTokens
    let isNamed := startsIdentifier (← get)
    let member ← readMember
    if (← nextSign ":") || !isNamed then
      let colon ← sign ":"
      pure (attributes ++ member ++ colon ++ (← g.expressionTokens))
    else pure (attributes ++ member)

/-- Reads a path, the call of a macro, or a record. -/
def readPathExpression (records : Bool) : Reader Expression := do
  let (opening, p) ← g.readQualified true
  let path := opening.getD [] ++ p.tokens
  let ts ← get
  if opening.isNone && startsSign "!" ts && !startsSign "!=" ts && p.isPlain then
    let mark ← sign "!"
    let (d, inner) ← readAnyGroup
    pure ⟨.macroCall (d == .brace), path ++ mark ++ [.group d inner]⟩
  else if records && startsGroup .brace ts then
    pure ⟨.record, path ++ (← wrapped .brace (Reader.list g.readFieldValue))⟩
  else pure ⟨.path p, path⟩

/-- Reads what stands in parentheses: nothing, one expression, or several. -/
def readParenthesis : Reader Expression := do
  let (kind, tokens) ← inside .parenthesis do
    if ← atEnd then pure (ExpressionKind.tuple, [])
    else
      let first ← g.expressionTokens
      if ← atEnd then pure (.paren, first)
      else
        let comma ← sign ","
        pure (.tuple, first ++ comma ++ (← Reader.list g.expressionTokens))
  pure ⟨kind, [.group .parenthesis tokens]⟩

/-- Reads what stands in brackets: elements, or one element and how often it is repeated. -/
def readBrackets : Reader Expression := do
  let (kind, tokens) ← inside .bracket do
    if ← atEnd then pure (ExpressionKind.array, [])
    else
      let first ← g.expressionTokens
      if (← atEnd) then pure (.array, first)
      else if ← nextSign "," then
        let comma ← sign ","
        pure (.array, first ++ comma ++ (← Reader.list g.expressionTokens))
      else if ← nextSign ";" then
        let semicolon ← sign ";"
        pure (.repeated, first ++ semicolon ++ (← g.expressionTokens))
      else expected "`,` or `;`"
  pure ⟨kind, [.group .bracket tokens]⟩

/-- Reads a parameter of a closure. -/
def readClosureInput : Reader (List Token) := do
  let attributes ← g.attributeTokens
  let pattern := (← g.pattern).tokens
  let type ← when (nextSign ":") (do let colon ← sign ":"; pure (colon ++ (← g.typeTokens)))
  pure (attributes ++ pattern ++ type)

/-- Reads a closure. -/
def readClosure (records : Bool) : Reader Expression := do
  let marks ← inTurn [g.readBoundLifetimes, optionalWord "const", optionalWord "static",
    optionalWord "async", optionalWord "move", sign "|"]
  let inputs ← listUntil (nextSign "|") g.readClosureInput
  let bar ← sign "|"
  let opening := marks ++ inputs ++ bar
  if ← nextSign "->" then
    let arrow ← sign "->"
    let result := (← g.type false).tokens
    pure ⟨.closure, opening ++ arrow ++ result ++ (← g.blockTokens)⟩
  else pure ⟨.closure, opening ++ (← g.expression records).tokens⟩

/-- Reads the branches that follow a condition; `fuel` bounds their number. -/
def readBranches : Nat → Reader (List Token)
  | 0 => fail .leftOver
  | fuel + 1 => do
    let condition ← inTurn [word "if", g.conditionTokens, g.blockTokens]
    if ← nextWord "else" then
      let other ← word "else"
      let ts ← get
      if startsWord "if" ts then pure (condition ++ other ++ (← readBranches fuel))
      else if startsGroup .brace ts then pure (condition ++ other ++ (← g.blockTokens))
      else expected "`if` or curly braces"
    else pure condition

/-- Reads a loop or a block behind its label. -/
def readLoop : Reader Expression := do
  let ts ← get
  if startsWord "while" ts then
    pure ⟨.whileLoop, ← inTurn [word "while", g.conditionTokens, g.blockTokens]⟩
  else if startsWord "for" ts then
    pure ⟨.forLoop,
      ← inTurn [word "for", g.patternTokens, word "in", g.conditionTokens, g.blockTokens]⟩
  else if startsWord "loop" ts then pure ⟨.endlessLoop, ← inTurn [word "loop", g.blockTokens]⟩
  else if startsGroup .brace ts then pure ⟨.block, ← g.blockTokens⟩
  else expected "loop or block expression"

/-- Reads one case of a `match`. -/
def readCase : Reader (List Token) := do
  let attributes ← g.attributeTokens
  let pattern ← g.patternTokens
  let guard ← when (nextWord "if") (do let mark ← word "if"; pure (mark ++ (← g.expressionTokens)))
  let arrow ← sign "=>"
  let body ← g.early
  let comma ← if body.kind.standsAlone then optionalSign ","
    else when (do pure !(← atEnd)) (sign ",")
  pure (attributes ++ pattern ++ guard ++ arrow ++ body.tokens ++ comma)

/-- Reads a `match`. -/
def readMatch : Reader (List Token) := do
  let opening ← inTurn [word "match", g.conditionTokens]
  let cases ← wrapped .brace do
    let attributes ← g.readInnerAttributes
    let cases ← repeatUntil atEnd g.readCase
    pure (innerTokens attributes ++ cases.flatten)
  pure (opening ++ cases)

/-- Reads a value that may follow a jump. -/
def readJumpValue (records : Bool) : Reader (List Token) := do
  let ts ← get
  if startsExpression ts && (records || !startsGroup .brace ts) then
    pure (← g.expression records).tokens
  else pure []

/-- Reads an expression that begins with a keyword, if one does. -/
def readKeyword (records : Bool) : Reader (Option Expression) := do
  let ts ← get
  let found (kind : ExpressionKind) (r : Reader (List Token)) : Reader (Option Expression) := do
    pure (some ⟨kind, ← r⟩)
  if startsWord "break" ts then
    found .breakJump
      (inTurn [word "break", when (next startsLifetime) lifetime, g.readJumpValue records])
  else if startsWord "continue" ts then
    found .continueJump (inTurn [word "continue", when (next startsLifetime) lifetime])
  else if startsWord "return" ts then
    found .returnJump (inTurn [word "return", g.readJumpValue true])
  else if startsWord "yield" ts then
    found .yieldJump (inTurn [word "yield", g.readJumpValue true])
  else if startsWord "become" ts then
    found .verbatim (inTurn [word "become", g.expressionTokens])
  else if startsWord "let" ts then
    found .letCondition do
      let opening ← inTurn [word "let", g.patternTokens, sign "="]
      let e ← g.operand records
      pure (opening ++ (← g.operators records .compare e).tokens)
  else if startsWord "if" ts then found .branch (g.readBranches (ts.length + 1))
  else if ["while", "for", "loop"].any (fun w => startsWord w ts) then
    pure (some (← g.readLoop))
  else if startsWord "match" ts then found .cases g.readMatch
  else if startsWord "unsafe" ts then
    found .unsafeBlock (inTurn [word "unsafe", g.blockTokens])
  else if startsWord "const" ts then found .constBlock (inTurn [word "const", g.blockTokens])
  else if startsWord "_" ts then found .infer (word "_")
  else pure none

/-- Reads an atom. -/
def readAtom (records : Bool) : Reader Expression := do
  let ts ← get
  if startsLiteral ts then readLiteralExpression
  else if startsAsyncBlock ts then
    pure ⟨.asyncBlock, ← inTurn [word "async", optionalWord "move", g.blockTokens]⟩
  else if startsWord "try" ts && startsGroup .brace (behind ts) then
    pure ⟨.tryBlock, ← inTurn [word "try", g.blockTokens]⟩
  else if startsClosure ts then g.readClosure records
  else if startsExpressionPath ts then g.readPathExpression records
  else if startsGroup .parenthesis ts then g.readParenthesis
  else if startsGroup .bracket ts then g.readBrackets
  else if startsGroup .brace ts then pure ⟨.block, ← g.blockTokens⟩
  else if startsSign ".." ts then g.readRange records []
  else if startsLifetime ts then
    let label ← inTurn [lifetime, sign ":"]
    let e ← g.readLoop
    pure ⟨e.kind, label ++ e.tokens⟩
  else
    match ← g.readKeyword records with
    | some e => pure e
    | none => expected "an expression"

/-- Reads an operand: signs, and an atom with what stands behind it. -/
def readOperand (records : Bool) : Reader Expression := do
  let attributes ← g.attributeTokens
  let ts ← get
  if startsSign "&" ts then
    let mark ← sign "&"
    let ts ← get
    let isAddress := startsWord "raw" ts &&
      (startsWord "mut" (behind ts) || startsWord "const" (behind ts))
    let place ← if isAddress then inTurn [anyToken, anyToken] else optionalWord "mut"
    let e ← g.operand records
    pure ⟨if isAddress then .address else .reference, attributes ++ mark ++ place ++ e.tokens⟩
  else
    match ["*", "!", "-"].find? (fun s => startsSign s ts) with
    | some s =>
      let mark ← sign s
      pure ⟨.unary, attributes ++ mark ++ (← g.operand records).tokens⟩
    | none =>
      let e ← g.readTrailers (← g.readAtom records)
      pure ⟨e.kind, attributes ++ e.tokens⟩

/-! ### Statements -/

/-- Reads an expression that ends with its block if it begins with one, unless a member or a
question mark follows the block. -/
def readEarly : Reader Expression := do
  let attributes ← g.attributeTokens
  if startsBlockLike (← get) then
    let e ← g.readAtom true
    let ts ← get
    let e ← if startsMember ts || startsSign "?" ts then
        g.operators true .lowest (← g.readTrailers e)
      else pure e
    pure ⟨e.kind, attributes ++ e.tokens⟩
  else
    let e ← g.operators true .lowest (← g.operand true)
    pure ⟨e.kind, attributes ++ e.tokens⟩

end Grammar

end QueryMethods.Syntax
