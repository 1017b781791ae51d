/-
Reading patterns.

A name in a pattern is a path as soon as something follows that a new name could not have
behind it; otherwise it is a new name, which is all that the parameters of a method may be.
-/
import QueryMethods.Syntax.TypeReader

namespace QueryMethods.Syntax

open Reader

/-- Whether a name is a path because of what follows it. -/
def marksPath (ts : List Token) : Bool :=
  startsSign "::" ts || startsSign "!" ts || startsGroup .brace ts ||
    startsGroup .parenthesis ts || startsSign ".." ts

/-- Whether a pattern has a path here. -/
def startsPatternPath (ts : List Token) : Bool :=
  (startsIdentifier ts && marksPath (behind ts)) ||
  (startsWord "self" ts && startsSign "::" (behind ts)) ||
  startsSign "::" ts || startsSign "<" ts ||
  ["Self", "super", "crate"].any (fun w => startsWord w ts)

/-- Whether a range without an end ends here. -/
def endsRange (ts : List Token) : Bool :=
  ts.isEmpty || startsSign "|" ts || startsSign "=" ts ||
    (startsSign ":" ts && !startsSign "::" ts) || startsSign "," ts || startsSign ";" ts ||
    startsWord "if" ts

/-- Takes the sign of a range. -/
def readRangeSign : Reader (List Token) := do
  let ts ← get
  if startsSign "..=" ts then sign "..="
  else if startsSign "..." ts then expected "one of: `..`, `..=`"
  else sign ".."

/-- Takes the name or the number of a field. -/
def readMember : Reader (List Token) := do
  match ← get with
  | .literal l :: rest =>
    if l.kind == .integer then
      set rest
      pure [.literal l]
    else expected "identifier or integer"
  | ts => if startsIdentifier ts then pure [.word (← identifier)] else expected "identifier or integer"

namespace Grammar

variable (g : Grammar)

/-- Reads a pattern with alternatives. -/
def patternTokens : Reader (List Token) := do
  let bar ← when (nextSign "|") (sign "|")
  let first ← g.pattern
  let fuel := (← get).length
  let more (ts : List Token) : Bool :=
    startsSign "|" ts && !startsSign "||" ts && !startsSign "|=" ts
  let others ← repeatBounded (next (fun ts => !more ts))
    (do let bar ← sign "|"; pure (bar ++ (← g.pattern).tokens)) (fuel + 1)
  pure (bar ++ first.tokens ++ others.flatten)

/-- Reads the bound of a range. -/
def readRangeBound : Reader (List Token) := do
  let ts ← get
  if startsLiteral ts then pure (← readLiteralExpression).tokens
  else if startsWord "const" ts then inTurn [word "const", g.blockTokens]
  else do
    let (opening, p) ← g.readQualified true
    pure (opening.getD [] ++ p.tokens)

/-- Reads the end of a range, if it has one. -/
def readRangeEnd : Reader (List Token) := when (next (fun ts => !endsRange ts)) g.readRangeBound

/-- Reads what a field of a record must match. -/
def readFieldPattern : Reader (List Token) := do
  let attributes ← g.attributeTokens
  if ← nextSign ".." then pure (attributes ++ (← sign ".."))
  else
    let marks ← inTurn [optionalWord "box", optionalWord "ref", optionalWord "mut"]
    if marks.isEmpty then
      let ts ← get
      let member ← readMember
      if (← nextSign ":") || !startsIdentifier ts then
        let colon ← sign ":"
        pure (attributes ++ member ++ colon ++ (← g.patternTokens))
      else pure (attributes ++ member)
    else pure (attributes ++ marks ++ [.word (← identifier)])

/-- Reads a pattern that begins with a path. -/
def readPathPattern : Reader (List Token) := do
  let (opening, p) ← g.readQualified true
  let path := opening.getD [] ++ p.tokens
  let ts ← get
  if opening.isNone && startsSign "!" ts && !startsSign "!=" ts && p.isPlain then
    let mark ← sign "!"
    let (d, inner) ← readAnyGroup
    pure (path ++ mark ++ [.group d inner])
  else if startsGroup .brace ts then
    pure (path ++ (← wrapped .brace (Reader.list g.readFieldPattern)))
  else if startsGroup .parenthesis ts then
    pure (path ++ (← wrapped .parenthesis (Reader.list g.patternTokens)))
  else if startsSign ".." ts then
    let dots ← readRangeSign
    pure (path ++ dots ++ (← g.readRangeEnd))
  else pure path

/-- Reads a new name with its marks. -/
def readNamePattern : Reader Pattern := do
  let marks ← inTurn [optionalWord "ref", optionalWord "mut"]
  let name ← if ← nextWord "self" then anyWord else identifier
  let inner ← when (nextSign "@") (do let mark ← sign "@"; pure (mark ++ (← g.pattern).tokens))
  pure ⟨marks ++ .word name :: inner, some name⟩

/-- What a pattern may begin with. -/
def patternOpenings : String :=
  "one of: identifier, `::`, `<`, `_`, literal, `const`, `ref`, `mut`, `&`, parentheses, " ++
    "square brackets, `..`"

/-- Reads a pattern without alternatives. -/
def readPattern : Reader Pattern := do
  let plain (r : Reader (List Token)) : Reader Pattern := do pure ⟨← r, none⟩
  let ts ← get
  if startsPatternPath ts then plain g.readPathPattern
  else if startsWord "_" ts then plain (word "_")
  else if startsWord "box" ts then
    plain (do let mark ← word "box"; pure (mark ++ (← g.pattern).tokens))
  else if startsSign "-" ts || startsLiteral ts || startsWord "const" ts then
    plain do
      let low ← g.readRangeBound
      if ← nextSign ".." then
        let dots ← readRangeSign
        pure (low ++ dots ++ (← g.readRangeEnd))
      else pure low
  else if startsWord "ref" ts || startsWord "mut" ts || startsWord "self" ts ||
      startsIdentifier ts then g.readNamePattern
  else if startsSign "&" ts then
    plain do
      let mark ← inTurn [sign "&", optionalWord "mut"]
      pure (mark ++ (← g.pattern).tokens)
  else if startsGroup .parenthesis ts then
    plain (wrapped .parenthesis (Reader.list g.patternTokens))
  else if startsGroup .bracket ts then plain (wrapped .bracket (Reader.list g.patternTokens))
  else if startsSign ".." ts then
    plain do
      let dots ← readRangeSign
      pure (dots ++ (← g.readRangeEnd))
  else expected patternOpenings

end Grammar

end QueryMethods.Syntax
