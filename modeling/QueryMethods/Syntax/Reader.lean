/-
Reading a row of tokens from left to right.

A reader looks at the tokens that are left, takes some, and answers with what they mean,
or fails.  A failure at the end of a group says that the end came too early.  The tokens
that a reader takes are given back in canonical form: an operator is joined in itself and
never to what follows it, however it was written.
-/
import QueryMethods.Syntax.Token

namespace QueryMethods.Syntax

/-- Why tokens could not be read. -/
inductive SyntaxError
  /-- Something else was needed here. -/
  | expected (what : String)
  /-- A keyword stands where an identifier was needed. -/
  | keyword (word : String)
  /-- Tokens are left where none may be. -/
  | leftOver
  /-- Tokens are left at the end of a group. -/
  | leftInside (d : Delimiter)
  /-- Two comparisons without brackets. -/
  | chainedComparison
  /-- Something behind a cast that would belong to the type. -/
  | behindCast (what : String)
  /-- Bounds without a trait. -/
  | noTrait
  /-- An attribute in front of the value of an attribute. -/
  | attributeInside
  /-- The tokens ended where the cause was noticed. -/
  | tooEarly (cause : SyntaxError)
  deriving DecidableEq, Repr, Inhabited

/-- What is said of a failure. -/
def SyntaxError.message : SyntaxError → String
  | expected what => s!"expected {what}"
  | keyword word => s!"expected identifier, found keyword `{word}`"
  | leftOver => "unexpected token"
  | leftInside .parenthesis => "unexpected token, expected `)`"
  | leftInside .bracket => "unexpected token, expected `]`"
  | leftInside .brace => "unexpected token, expected `\x7d`"
  | chainedComparison => "comparison operators cannot be chained"
  | behindCast what => s!"casts cannot be followed by {what}"
  | noTrait => "at least one trait is required for an object type"
  | attributeInside => "unexpected attribute inside of attribute"
  | tooEarly cause => s!"unexpected end of input, {cause.message}"

/-- A reader of tokens. -/
abbrev Reader (α : Type) := StateT (List Token) (Except SyntaxError) α

namespace Reader

/-- Fails here. -/
def fail {α : Type} (cause : SyntaxError) : Reader α := do
  if (← get).isEmpty then throw (.tooEarly cause) else throw cause

/-- Fails because something else is needed here. -/
def expected {α : Type} (what : String) : Reader α := fail (.expected what)

/-! ### Looking ahead -/

/-- Whether the tokens begin with the signs of an operator, joined to each other. -/
def beginsWith : List Char → List Token → Bool
  | [], _ => true
  | [c], .sign d _ :: _ => c == d && c != '\''
  | c :: cs, .sign d joined :: rest => c == d && joined && c != '\'' && beginsWith cs rest
  | _, _ => false

/-- Whether a row of tokens begins with an operator. -/
def startsSign (s : String) (ts : List Token) : Bool := beginsWith s.toList ts

/-- Whether a row of tokens begins with a word. -/
def startsWord (w : String) : List Token → Bool
  | .word v :: _ => v == w
  | _ => false

/-- Whether a row of tokens begins with a group. -/
def startsGroup (d : Delimiter) : List Token → Bool
  | .group e _ :: _ => d == e
  | _ => false

/-- Whether a row of tokens begins with a lifetime. -/
def startsLifetime : List Token → Bool
  | .sign '\'' _ :: .word _ :: _ => true
  | _ => false

/-- The words that name nothing. -/
def keywords : List String :=
  ["_", "abstract", "as", "async", "await", "become", "box", "break", "const", "continue",
    "crate", "do", "dyn", "else", "enum", "extern", "false", "final", "fn", "for", "if",
    "impl", "in", "let", "loop", "macro", "match", "mod", "move", "mut", "override", "priv",
    "pub", "ref", "return", "Self", "self", "static", "struct", "super", "trait", "true",
    "try", "type", "typeof", "unsafe", "unsized", "use", "virtual", "where", "while", "yield"]

/-- Whether a row of tokens begins with an identifier. -/
def startsIdentifier : List Token → Bool
  | .word v :: _ => !keywords.contains v
  | _ => false

/-- Whether a row of tokens begins with any word. -/
def startsAnyWord : List Token → Bool
  | .word _ :: _ => true
  | _ => false

/-- Whether a row of tokens begins with a literal; a number may have a minus. -/
def startsLiteral : List Token → Bool
  | .literal _ :: _ => true
  | .word v :: _ => v == "true" || v == "false"
  | .sign '-' _ :: .literal l :: _ => l.kind == .integer || l.kind == .float
  | _ => false

/-- The tokens behind the first, a lifetime counted as one. -/
def behind : List Token → List Token
  | .sign '\'' _ :: .word _ :: rest => rest
  | _ :: rest => rest
  | [] => []

/-- Whether the tokens left meet a test. -/
def next (test : List Token → Bool) : Reader Bool := do return test (← get)

/-- Whether an operator is next. -/
def nextSign (s : String) : Reader Bool := next (startsSign s)

/-- Whether a word is next. -/
def nextWord (w : String) : Reader Bool := next (startsWord w)

/-- Whether a group is next. -/
def nextGroup (d : Delimiter) : Reader Bool := next (startsGroup d)

/-- Whether nothing is left. -/
def atEnd : Reader Bool := next List.isEmpty

/-! ### Taking tokens -/

/-- Takes an operator. -/
def sign (s : String) : Reader (List Token) := do
  if startsSign s (← get) then
    modify (·.drop s.length)
    pure (operator s)
  else expected s!"`{s}`"

/-- Takes a word. -/
def word (w : String) : Reader (List Token) := do
  if startsWord w (← get) then
    modify (·.drop 1)
    pure [.word w]
  else expected s!"`{w}`"

/-- Takes any word, keywords included. -/
def anyWord : Reader String := do
  match ← get with
  | .word v :: rest => set rest; pure v
  | _ => expected "identifier"

/-- Takes an identifier. -/
def identifier : Reader String := do
  match ← get with
  | .word v :: rest =>
    if keywords.contains v then fail (.keyword v)
    else
      set rest
      pure v
  | _ => expected "identifier"

/-- Takes a lifetime. -/
def lifetime : Reader (List Token) := do
  match ← get with
  | .sign '\'' _ :: .word v :: rest =>
    set rest
    pure [.sign '\'' true, .word v]
  | _ => expected "lifetime"

/-- Takes one token, whatever it is. -/
def anyToken : Reader (List Token) := do
  match ← get with
  | t :: rest => set rest; pure [t]
  | [] => expected "token"

/-- Takes everything that is left. -/
def everything : Reader (List Token) := do
  let ts ← get
  set ([] : List Token)
  pure ts

/-- How a missing group is called. -/
def groupName : Delimiter → String
  | .parenthesis => "parentheses"
  | .bracket => "square brackets"
  | .brace => "curly braces"

/-- Takes a group and answers what is inside. -/
def group (d : Delimiter) : Reader (List Token) := do
  match ← get with
  | .group e inner :: rest =>
    if d = e then
      set rest
      pure inner
    else expected (groupName d)
  | _ => expected (groupName d)

/-- Reads all of a row of tokens. -/
def readAll {α : Type} (r : Reader α) (ts : List Token) : Except SyntaxError α :=
  match r.run ts with
  | .error e => .error e
  | .ok (x, []) => .ok x
  | .ok (_, _ :: _) => .error .leftOver

/-- Takes a group whose inside is read. -/
def inside {α : Type} (d : Delimiter) (r : Reader α) : Reader α := do
  match r.run (← group d) with
  | .ok (x, []) => pure x
  | .ok (_, _ :: _) => throw (.leftInside d)
  | .error e => throw e

/-- Takes a group and gives it back with what its inside is in canonical form. -/
def wrapped (d : Delimiter) (r : Reader (List Token)) : Reader (List Token) := do
  pure [.group d (← inside d r)]

/-- Tries to read; answers nothing and takes nothing if that fails. -/
def attempt {α : Type} (r : Reader α) : Reader (Option α) := fun ts =>
  match r.run ts with
  | .ok (x, rest) => .ok (some x, rest)
  | .error _ => .ok (none, ts)

/-- The tokens that a reader takes, as they are. -/
def verbatim {α : Type} (r : Reader α) : Reader (List Token) := do
  let before ← get
  let _ ← r
  let after ← get
  pure (before.take (before.length - after.length))

/-! ### Combining readers -/

/-- What readers take, one after the other. -/
def inTurn : List (Reader (List Token)) → Reader (List Token)
  | [] => pure []
  | r :: rs => do
    let ts ← r
    let us ← inTurn rs
    pure (ts ++ us)

/-- Reads if a test holds, and takes nothing otherwise. -/
def when (test : Reader Bool) (r : Reader (List Token)) : Reader (List Token) := do
  if ← test then r else pure []

/-- Takes an operator if it is next. -/
def optionalSign (s : String) : Reader (List Token) := when (nextSign s) (sign s)

/-- Takes a word if it is next. -/
def optionalWord (w : String) : Reader (List Token) := when (nextWord w) (word w)

/-- Reads again and again until a test holds; `fuel` bounds the number of times. -/
def repeatBounded {α : Type} (stop : Reader Bool) (r : Reader α) : Nat → Reader (List α)
  | 0 => fail .leftOver
  | fuel + 1 => do
    if ← stop then pure []
    else
      let x ← r
      let xs ← repeatBounded stop r fuel
      pure (x :: xs)

/-- Reads again and again until a test holds, taking at least one token each time. -/
def repeatUntil {α : Type} (stop : Reader Bool) (r : Reader α) : Reader (List α) := do
  repeatBounded stop r ((← get).length + 1)

/-- Reads items with commas between them, and perhaps behind the last, until a test holds;
each comes with whether a comma follows it.  `fuel` bounds their number. -/
def separatedBounded {α : Type} (stop : Reader Bool) (r : Reader α) : Nat → Reader (List (α × Bool))
  | 0 => fail .leftOver
  | fuel + 1 => do
    if ← stop then pure []
    else
      let x ← r
      if ← stop then pure [(x, false)]
      else
        let _ ← sign ","
        let xs ← separatedBounded stop r fuel
        pure ((x, true) :: xs)

/-- Reads items with commas between them, and perhaps behind the last, until a test holds. -/
def separated {α : Type} (stop : Reader Bool) (r : Reader α) : Reader (List (α × Bool)) := do
  separatedBounded stop r ((← get).length + 1)

/-- A comma, if there is one. -/
def commaIf (comma : Bool) : List Token := if comma then [.sign ',' false] else []

/-- Items with their commas. -/
def joined (items : List (List Token × Bool)) : List Token :=
  items.flatMap (fun (ts, comma) => ts ++ commaIf comma)

/-- What items with commas take, until a test holds. -/
def listUntil (stop : Reader Bool) (r : Reader (List Token)) : Reader (List Token) := do
  pure (joined (← separated stop r))

/-- What items with commas take, until the end. -/
def list (r : Reader (List Token)) : Reader (List Token) := listUntil atEnd r

end Reader

end QueryMethods.Syntax
