/-
Reading paths and types.

In an expression the generic arguments of a path stand behind a double colon; in a type
they may follow the name directly.  The arguments of a function type stand in parentheses
behind the name of its trait.
-/
import QueryMethods.Syntax.Attribute

namespace QueryMethods.Syntax

open Reader

/-- The tokens behind the first two, which a double colon takes. -/
def behindTwo (ts : List Token) : List Token := behind (behind ts)

/-- Whether a path goes on with a double colon and something that meets a test. -/
def goesOn (test : List Token → Bool) (ts : List Token) : Bool :=
  startsSign "::" ts && test (behindTwo ts)

/-- Whether a bound may begin here. -/
def startsBound (ts : List Token) : Bool :=
  startsAnyWord ts || startsSign "::" ts || startsSign "?" ts || startsLifetime ts ||
    startsGroup .parenthesis ts

/-- Whether bounds that stand before the body or the value of an item end here. -/
def endsBounds (ts : List Token) : Bool :=
  ts.isEmpty || startsGroup .brace ts || startsSign "," ts || startsSign ";" ts ||
    (startsSign ":" ts && !startsSign "::" ts) || startsSign "=" ts

/-- Reads items with plus signs between them and perhaps behind the last; behind a sign an
item follows if the test says so.  `fuel` bounds their number. -/
def plusSeparated (more : List Token → Bool) (item : Reader (List Token)) :
    Nat → Reader (List Token)
  | 0 => fail .leftOver
  | fuel + 1 => do
    let ts ← item
    if ← nextSign "+" then
      let plus ← sign "+"
      if more (← get) then pure (ts ++ plus ++ (← plusSeparated more item fuel))
      else pure (ts ++ plus)
    else pure ts

/-- Whether bounds are lifetimes and nothing else. -/
def onlyLifetimes : List Token → Bool
  | [] => true
  | .sign '\'' _ :: .word _ :: rest => onlyLifetimes rest
  | .sign '+' _ :: rest => onlyLifetimes rest
  | _ => false

namespace Path

/-- Whether a path is made of names alone. -/
def isPlain : Path → Bool
  | mk before _ .absent => before.all (fun t => match t with
    | .word _ => true
    | .sign ':' _ => true
    | _ => false)
  | mk _ _ _ => false

/-- The path with another segment behind it. -/
def extend (p : Path) (name : String) (arguments : Arguments) : Path :=
  mk (p.tokens ++ operator "::") name arguments

/-- The path with other arguments behind its last name. -/
def withArguments : Path → Arguments → Path
  | mk before name _, arguments => mk before name arguments

/-- Whether nothing stands behind the last name. -/
def isBare : Path → Bool
  | mk _ _ .absent => true
  | mk _ _ _ => false

/-- Whether a path is one name with nothing or angle brackets behind it. -/
def isSingle : Path → Bool
  | mk [] _ .absent => true
  | mk [] _ (.angled _ _) => true
  | mk _ _ _ => false

end Path

namespace Grammar

variable (g : Grammar)

/-- The tokens of the type behind an arrow, if there is one. -/
def readResult (plus : Bool) : Reader (List Token) :=
  when (nextSign "->") do
    let arrow ← sign "->"
    pure (arrow ++ (← g.type plus).tokens)

/-! ### Lifetimes -/

/-- The tokens of a lifetime that is declared, with its bounds. -/
def readLifetimeParameter : Reader (List Token) := do
  let attributes ← g.attributeTokens
  let name ← lifetime
  if ← nextSign ":" then
    let colon ← sign ":"
    let stop (ts : List Token) : Bool := startsSign "," ts || startsSign ">" ts
    let bounds ← when (next (fun ts => !stop ts))
      (plusSeparated (fun ts => !stop ts) lifetime ((← get).length + 1))
    pure (attributes ++ name ++ (if bounds.isEmpty then [] else colon ++ bounds))
  else pure (attributes ++ name)

/-- The tokens of the lifetimes that a bound or a function type declares. -/
def readBoundLifetimes : Reader (List Token) :=
  when (nextWord "for") do
    let opening ← inTurn [word "for", sign "<"]
    let names ← listUntil (nextSign ">") g.readLifetimeParameter
    pure (opening ++ names ++ (← sign ">"))

/-! ### Generic arguments -/

/-- The tokens of a constant that is a generic argument. -/
def readConstant : Reader (List Token) := do
  let ts ← get
  if startsLiteral ts then pure (← readLiteralExpression).tokens
  else if startsGroup .brace ts then g.blockTokens
  else pure [.word (← identifier)]

/-- Reads the arguments or the result of a function type. -/
def readFunctionArguments : Reader Arguments := do
  let _ ← optionalSign "::"
  let inputs ← wrapped .parenthesis (Reader.list g.typeTokens)
  pure (.parenthesised (inputs ++ (← g.readResult false)))

/-- Makes an argument of a type: one with a value or with bounds behind a single name, and
the type itself otherwise. -/
def readArgumentBehind (t : Ty) : Reader (Bool → Argument) := do
  match t with
  | .path p =>
    let ts ← get
    if p.isSingle && startsSign "=" ts then
      let equals ← sign "="
      let ts ← get
      let value ← if startsLiteral ts || startsGroup .brace ts then g.readConstant else g.typeTokens
      pure (.other (p.tokens ++ equals ++ value))
    else if p.isSingle && startsSign ":" ts then
      let colon ← sign ":"
      let stop (ts : List Token) : Bool := startsSign "," ts || startsSign ">" ts
      let bounds ← when (next (fun ts => !stop ts))
        (plusSeparated (fun ts => !stop ts) g.bound ((← get).length + 1))
      pure (.other (p.tokens ++ colon ++ bounds))
    else pure (.type t)
  | _ => pure (.type t)

/-- Reads a generic argument. -/
def readArgument : Reader (Bool → Argument) := do
  let ts ← get
  if startsLifetime ts && !startsSign "+" (behind ts) then pure (.lifetime (← lifetime))
  else if startsLiteral ts || startsGroup .brace ts then pure (.other (← g.readConstant))
  else g.readArgumentBehind (← g.type true)

/-- Reads generic arguments in angle brackets. -/
def readArguments : Reader Arguments := do
  let mark ← optionalSign "::"
  let _ ← sign "<"
  let items ← separated (nextSign ">") g.readArgument
  let _ ← sign ">"
  pure (.angled mark (items.map (fun (make, comma) => make comma)))

/-! ### Paths -/

/-- Reads a segment of a path: its name and its arguments. -/
def readSegment (inExpression : Bool) : Reader (String × Arguments) := do
  let ts ← get
  if ["super", "self", "crate", "try"].any (fun w => startsWord w ts) then
    pure (← anyWord, .absent)
  else
    let name ← if startsWord "Self" ts then anyWord else identifier
    let ts ← get
    if (!inExpression && startsSign "<" ts && !startsSign "<=" ts) || goesOn (startsSign "<") ts then
      pure (name, ← g.readArguments)
    else pure (name, .absent)

/-- Reads the segments that follow a path; `fuel` bounds their number. -/
def readSegments (inExpression : Bool) : Nat → Path → Reader Path
  | 0, p => pure p
  | fuel + 1, p => do
    let ts ← get
    if startsSign "::" ts && !startsGroup .parenthesis (behindTwo ts) then
      let _ ← sign "::"
      let (name, arguments) ← g.readSegment inExpression
      readSegments inExpression fuel (p.extend name arguments)
    else pure p

/-- Reads a path. -/
def readPath (inExpression : Bool) : Reader Path := do
  let colons ← optionalSign "::"
  let (name, arguments) ← g.readSegment inExpression
  g.readSegments inExpression (← get).length (.mk colons name arguments)

/-! ### Bounds -/

/-- Reads a bound: a lifetime, captured names, or a trait with its arguments. -/
def readBound : Reader (List Token) := do
  let ts ← get
  if startsLifetime ts then lifetime
  else if startsWord "use" ts then
    let opening ← inTurn [word "use", sign "<"]
    let captured := do
      if startsLifetime (← get) then lifetime else pure [.word (← anyWord)]
    let names ← listUntil (nextSign ">") captured
    pure (opening ++ names ++ (← sign ">"))
  else
    let trait : Reader (List Token) := do
      let outer ← g.readBoundLifetimes
      let modifier ← optionalSign "?"
      let inner ← if outer.isEmpty then g.readBoundLifetimes else pure []
      let p ← g.readPath false
      let ts ← get
      let p ← if p.isBare && (startsGroup .parenthesis ts || goesOn (startsGroup .parenthesis) ts) then
          pure (p.withArguments (← g.readFunctionArguments))
        else pure p
      pure (modifier ++ outer ++ inner ++ p.tokens)
    if startsGroup .parenthesis ts then wrapped .parenthesis trait else trait

/-- Reads bounds until the test says that none follows. -/
def readBoundsWhile (more : List Token → Bool) : Reader (List Token) := do
  when (next more) (plusSeparated more g.bound ((← get).length + 1))

/-- Reads at least one bound, and more behind plus signs if these are allowed. -/
def readBounds (plus : Bool) : Reader (List Token) := do
  if plus then plusSeparated startsBound g.bound ((← get).length + 1) else g.bound

/-- Reads the bounds that a type consists of, at least one of them a trait. -/
def readTraits (plus : Bool) : Reader (List Token) := do
  let bounds ← g.readBounds plus
  if onlyLifetimes bounds then fail .noTrait else pure bounds

/-- Reads a path that may stand behind a type in angle brackets; answers what stands before
the path and the path. -/
def readQualified (inExpression : Bool) : Reader (Option (List Token) × Path) := do
  if ← nextSign "<" then
    let opening ← inTurn [sign "<", g.typeTokens]
    let trait ← when (nextWord "as") do
      let mark ← word "as"
      pure (mark ++ (← g.readPath false).tokens)
    let closing ← inTurn [sign ">", sign "::"]
    let (name, arguments) ← g.readSegment inExpression
    let p ← g.readSegments inExpression (← get).length (.mk [] name arguments)
    pure (some (opening ++ trait ++ closing), p)
  else pure (none, ← g.readPath inExpression)

/-- Adds the arguments of function types to a path of a type; `fuel` bounds their number. -/
def readFunctionTypes : Nat → Path → Reader Path
  | 0, p => pure p
  | fuel + 1, p => do
    let ts ← get
    if p.isBare && (startsGroup .parenthesis ts || goesOn (startsGroup .parenthesis) ts) then
      let p := p.withArguments (← g.readFunctionArguments)
      readFunctionTypes fuel (← g.readSegments false (← get).length p)
    else pure p

/-! ### Types -/

/-- Reads a function pointer behind its bound lifetimes. -/
def readFunctionPointer : Reader (List Token) := do
  let marks ← inTurn [optionalWord "unsafe",
    when (nextWord "extern") (do
      let mark ← word "extern"
      let ts ← get
      if startsLiteral ts then pure (mark ++ (← readLiteralExpression).tokens) else pure mark),
    word "fn"]
  let input : Reader (List Token) := do
    let attributes ← g.attributeTokens
    let ts ← get
    if startsSign "..." ts then pure (attributes ++ (← sign "..."))
    else
      let isNamed := (startsIdentifier ts || startsWord "_" ts || startsWord "self" ts) &&
        startsSign ":" (behind ts) && !startsSign "::" (behind ts)
      let name ← if isNamed then inTurn [anyToken, sign ":"] else pure []
      let dots ← when (pure isNamed) (optionalSign "...")
      if dots.isEmpty then pure (attributes ++ name ++ (← g.typeTokens))
      else pure (attributes ++ name ++ dots)
  pure (marks ++ (← wrapped .parenthesis (Reader.list input)) ++ (← g.readResult false))

/-- Reads the rest of a type that begins with the path of a trait, bounds included. -/
def readTraitObject (before : List Token) (plus : Bool) (first : List Token) : Reader Ty := do
  if plus && (← nextSign "+") then
    let sum ← sign "+"
    let more ← when (next startsBound) (g.readBounds true)
    pure (.other (before ++ first ++ sum ++ more))
  else pure (.other (before ++ first))

/-- Reads a type that begins with a path. -/
def readPathType (lifetimes : List Token) (plus : Bool) : Reader Ty := do
  let (opening, p) ← g.readQualified false
  let p ← g.readFunctionTypes (← get).length p
  match opening with
  | some opening => pure (.qualified opening p)
  | none =>
    let ts ← get
    if startsSign "!" ts && !startsSign "!=" ts && p.isPlain then
      let mark ← sign "!"
      let (d, inner) ← readAnyGroup
      pure (.other (p.tokens ++ mark ++ [.group d inner]))
    else if !lifetimes.isEmpty || (plus && startsSign "+" ts) then
      g.readTraitObject lifetimes plus p.tokens
    else pure (.path p)

/-- What stands inside the parentheses of a type: nothing, one type, or the tokens of
several; the flag says that one type stands alone. -/
def readParenthesised : Reader (Option Ty × Option (List Token)) := do
  let ts ← get
  if ts.isEmpty then pure (none, none)
  else if startsLifetime ts || startsSign "?" ts then
    pure (some (.other (← g.readTraits true)), none)
  else
    let first ← g.type true
    if ← nextSign "," then
      let comma ← sign ","
      pure (none, some (first.tokens ++ comma ++ (← Reader.list g.typeTokens)))
    else pure (some first, none)

/-- Reads a type that begins with a parenthesis. -/
def readParenthesisType (plus : Bool) : Reader Ty := do
  match ← inside .parenthesis g.readParenthesised with
  | (some t, _) =>
    match t with
    | .path p =>
      if plus && (← nextSign "+") then
        g.readTraitObject [] plus [.group .parenthesis p.tokens]
      else pure (.parens t)
    | _ => pure (.parens t)
  | (none, some ts) => pure (.other [.group .parenthesis ts])
  | (none, none) => pure .unit

/-- Reads a type that begins with a bracket. -/
def readBracketType : Reader Ty :=
  inside .bracket do
    let element ← g.type true
    if ← nextSign ";" then
      let _ ← sign ";"
      pure (.array element (← g.expressionTokens))
    else pure (.slice element)

/-- What a type may begin with. -/
def typeOpenings : String :=
  "one of: `for`, parentheses, `fn`, `unsafe`, `extern`, identifier, `::`, `<`, `dyn`, " ++
    "square brackets, `*`, `&`, `!`, `impl`, `_`, lifetime"

/-- Whether lifetimes may be declared in front of a type that begins here. -/
def mayBindLifetimes (ts : List Token) : Bool :=
  startsPlainName ts || ["fn", "unsafe", "extern"].any (fun w => startsWord w ts)

/-- Reads a type; the flag says whether bounds may be added to it. -/
def readType (plus : Bool) : Reader Ty := do
  let lifetimes ← g.readBoundLifetimes
  let ts ← get
  if !lifetimes.isEmpty && !mayBindLifetimes ts then expected typeOpenings
  else if startsGroup .parenthesis ts then g.readParenthesisType plus
  else if ["fn", "unsafe", "extern"].any (fun w => startsWord w ts) then
    pure (.other (lifetimes ++ (← g.readFunctionPointer)))
  else if startsPlainName ts || startsSign "::" ts || startsSign "<" ts then
    g.readPathType lifetimes plus
  else if startsWord "dyn" ts then
    let mark ← inTurn [word "dyn", optionalSign "*"]
    pure (.other (mark ++ (← g.readTraits plus)))
  else if startsGroup .bracket ts then g.readBracketType
  else if startsSign "*" ts then
    let star ← sign "*"
    let mark ← if ← nextWord "const" then word "const" else word "mut"
    pure (.other (star ++ mark ++ (← g.type false).tokens))
  else if startsSign "&" ts then
    let mark ← inTurn [sign "&", when (next startsLifetime) lifetime, optionalWord "mut"]
    pure (.reference mark (← g.type false))
  else if startsSign "!" ts && !startsSign "!=" ts then pure (.other (← sign "!"))
  else if startsWord "impl" ts then
    let mark ← word "impl"
    pure (.other (mark ++ (← g.readTraits plus)))
  else if startsWord "_" ts then pure (.other (← word "_"))
  else if startsLifetime ts then pure (.other (← g.readTraits plus))
  else expected typeOpenings

end Grammar

end QueryMethods.Syntax
