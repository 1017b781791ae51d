/-
From source text to trees of tokens.

The text is first cut into lexemes, skipping blanks and comments, and the brackets among
the lexemes are then matched.  A documentation comment is no comment in this sense: it
stands for the attribute `doc` with the text of the comment.
-/
import QueryMethods.Syntax.LiteralReader

namespace QueryMethods.Syntax

/-- A piece of source without inner structure. -/
inductive Lexeme
  /-- Tokens that the piece stands for. -/
  | tokens (ts : List Token)
  | opens (d : Delimiter)
  | closes (d : Delimiter)
  deriving Repr, Inhabited

/-! ### Comments -/

/-- The rest of a line, and what follows from its line feed on. -/
def splitLine : List Char → List Char × List Char
  | [] => ([], [])
  | '\n' :: rest => ([], '\n' :: rest)
  | '\r' :: '\n' :: rest => ([], '\n' :: rest)
  | c :: rest => let (line, behind) := splitLine rest; (c :: line, behind)

/-- The text of a block comment up to the end of its outermost level, and what follows;
`depth` counts the levels open inside it. -/
def splitBlock : Nat → List Char → Option (List Char × List Char)
  | depth, '/' :: '*' :: rest =>
    (splitBlock (depth + 1) rest).map (fun (text, behind) => ('/' :: '*' :: text, behind))
  | 0, '*' :: '/' :: rest => some ([], rest)
  | depth + 1, '*' :: '/' :: rest =>
    (splitBlock depth rest).map (fun (text, behind) => ('*' :: '/' :: text, behind))
  | depth, c :: rest => (splitBlock depth rest).map (fun (text, behind) => (c :: text, behind))
  | _, [] => none

/-- What follows a comment that is no documentation, if the text begins with one. -/
def afterComment : List Char → Option (List Char)
  | '/' :: '/' :: '/' :: '/' :: rest => some (splitLine rest).2
  | '/' :: '/' :: '/' :: _ => none
  | '/' :: '/' :: '!' :: _ => none
  | '/' :: '/' :: rest => some (splitLine rest).2
  | '/' :: '*' :: '*' :: '/' :: rest => some rest
  | '/' :: '*' :: '*' :: '*' :: rest => (splitBlock 0 ('*' :: '*' :: rest)).map (·.2)
  | '/' :: '*' :: '*' :: _ => none
  | '/' :: '*' :: '!' :: _ => none
  | '/' :: '*' :: rest => (splitBlock 0 rest).map (·.2)
  | _ => none

/-- Whether every carriage return stands before a line feed. -/
def returnsArePaired : List Char → Bool
  | [] => true
  | c :: rest => (c != '\r' || rest.head? == some '\n') && returnsArePaired rest

/-- A documentation comment: whether it documents what it stands in, its text, and what
follows. -/
def splitDocumentation : List Char → Option (Bool × List Char × List Char)
  | '/' :: '/' :: '!' :: rest => some (true, splitLine rest)
  | '/' :: '*' :: '!' :: rest =>
    (splitBlock 0 ('!' :: rest)).map (fun (text, behind) => (true, text.drop 1, behind))
  | '/' :: '/' :: '/' :: rest => some (false, splitLine rest)
  | '/' :: '*' :: '*' :: rest =>
    (splitBlock 0 ('*' :: rest)).map (fun (text, behind) => (false, text.drop 1, behind))
  | _ => none

/-- The attribute that a documentation comment stands for. -/
def documentation (inner : Bool) (text : List Char) : List Token :=
  [.sign '#' false] ++ (if inner then [.sign '!' false] else []) ++
    [.group .bracket [.word "doc", .sign '=' false, .quoted (String.ofList text)]]

/-! ### Signs and words -/

/-- Whether a character is blank in a source; the two direction marks are. -/
def isSourceBlank (c : Char) : Bool := Text.isBlank c || c == '\u200e' || c == '\u200f'

/-- The sign at the beginning of a text; the slash of a comment is none. -/
def headSign : List Char → Option Char
  | '/' :: '/' :: _ => none
  | '/' :: '*' :: _ => none
  | c :: _ => if c ∈ "~!@#$%^&*-=+|;:,<.>/?'".toList then some c else none
  | [] => none

/-- The beginnings of literals with a letter in front, which no identifier has. -/
def literalOpenings : List (List Char) :=
  ["r\"", "r#\"", "r##", "b\"", "b'", "br\"", "br#", "c\"", "cr\"", "cr#"].map String.toList

/-- The words that have no raw form. -/
def neverRaw : List String := ["_", "super", "self", "Self", "crate"]

/-- The identifier at the beginning of a text, raw or not, and what follows it. -/
def splitWord (cs : List Char) : Option (List Char × List Char) :=
  match cs with
  | 'r' :: '#' :: rest =>
    match splitIdentifier rest with
    | some (name, behind) =>
      if String.ofList name ∈ neverRaw then none else some ('r' :: '#' :: name, behind)
    | none => none
  | cs => splitIdentifier cs

/-- Whether the apostrophe before this text opens a lifetime. -/
def opensLifetime (cs : List Char) : Bool :=
  match splitWord cs with
  | none => false
  | some (_, '\'' :: _) => false
  | some (name, '#' :: _) => "r#".toList.isPrefixOf name
  | some _ => true

/-- The sign at the beginning of a text as a token, and what follows it. -/
def readSign (cs : List Char) : Option (Token × List Char) :=
  match headSign cs with
  | none => none
  | some c =>
    let rest := cs.drop 1
    if c = '\'' then (if opensLifetime rest then some (.sign c true, rest) else none)
    else some (.sign c (headSign rest).isSome, rest)

/-- The word at the beginning of a text as a token, and what follows it. -/
def readWord (cs : List Char) : Option (Token × List Char) :=
  if literalOpenings.any (·.isPrefixOf cs) then none
  else (splitWord cs).map (fun (name, rest) => (.word (String.ofList name), rest))

/-! ### Lexemes -/

/-- The bracket that a character opens or closes. -/
def bracketLexeme : Char → Option Lexeme
  | '(' => some (.opens .parenthesis)
  | '[' => some (.opens .bracket)
  | '\x7b' => some (.opens .brace)
  | ')' => some (.closes .parenthesis)
  | ']' => some (.closes .bracket)
  | '\x7d' => some (.closes .brace)
  | _ => none

/-- The literal, sign or word at the beginning of a text. -/
def readLeaf (cs : List Char) : Option (Token × List Char) :=
  match readLiteral cs with
  | some (l, rest) => some (.literal l, rest)
  | none =>
    match readSign cs with
    | some leaf => some leaf
    | none => readWord cs

/-- The lexeme at the beginning of a text without blanks, and what follows it. -/
def readLexeme (cs : List Char) : Option (Lexeme × List Char) :=
  match splitDocumentation cs with
  | some (inner, text, rest) =>
    if returnsArePaired text then some (.tokens (documentation inner text), rest) else none
  | none =>
    match cs.head?.bind bracketLexeme with
    | some lexeme => some (lexeme, cs.drop 1)
    | none => (readLeaf cs).map (fun (token, rest) => (.tokens [token], rest))

/-- The lexemes of a text; `fuel` bounds their number with that of blanks and comments. -/
def lexemes : Nat → List Char → Option (List Lexeme)
  | _, [] => some []
  | 0, _ :: _ => none
  | fuel + 1, c :: rest =>
    if isSourceBlank c then lexemes fuel rest
    else
      match afterComment (c :: rest) with
      | some behind => lexemes fuel behind
      | none =>
        match readLexeme (c :: rest) with
        | none => none
        | some (lexeme, behind) => (lexemes fuel behind).map (lexeme :: ·)

/-! ### Trees -/

/-- Matches brackets: `open` holds the groups not closed yet, innermost first, each with
the tokens before it, and `before` the tokens of the innermost one, latest first. -/
def matchBrackets : List (Delimiter × List Token) → List Token → List Lexeme →
    Option (List Token)
  | [], before, [] => some before.reverse
  | _ :: _, _, [] => none
  | opened, before, .tokens ts :: rest => matchBrackets opened (ts.reverse ++ before) rest
  | opened, before, .opens d :: rest => matchBrackets ((d, before) :: opened) [] rest
  | [], _, .closes _ :: _ => none
  | (d, outer) :: opened, before, .closes e :: rest =>
    if d = e then matchBrackets opened (.group d before.reverse :: outer) rest else none

/-- The tokens of a source, if it has any reading; a mark of byte order before it is
skipped. -/
def tokenize (source : String) : Option (List Token) :=
  let cs := match source.toList with
    | '\ufeff' :: rest => rest
    | cs => cs
  (lexemes cs.length cs).bind (matchBrackets [] [])

end QueryMethods.Syntax
