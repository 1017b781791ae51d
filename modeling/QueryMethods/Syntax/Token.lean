/-
Source code as a tree of tokens, and its canonical text.

Brackets of the three kinds are matched before anything is read, so a source is a row of
words, signs, literals and bracketed groups.  An operator of several characters is a row
of single signs, each but the last marked as joined to the next one; the mark on a
lifetime is a sign joined to its name.

The canonical text puts one blank between two tokens, none behind a joined sign, and
blanks inside braces but not inside the other brackets.
-/
import QueryMethods.Text.Quoted

namespace QueryMethods.Syntax

/-- The kinds of brackets. -/
inductive Delimiter
  | parenthesis
  | bracket
  | brace
  deriving DecidableEq, Repr, Inhabited

/-- What a literal stands for, as far as its reader asks. -/
inductive LiteralKind
  /-- A text, with its escapes resolved. -/
  | text (value : String)
  | bytes
  | cText
  | byte
  | char
  | integer
  | float
  deriving DecidableEq, Repr, Inhabited

/-- A literal as it is written. -/
structure Literal where
  spelling : String
  kind : LiteralKind
  deriving DecidableEq, Repr, Inhabited

/-- One token, or a bracketed group of them. -/
inductive Token
  /-- An identifier or a keyword; a raw one keeps its mark `r#`. -/
  | word (text : String)
  /-- One character of an operator, and whether the next one is joined to it. -/
  | sign (c : Char) (joined : Bool)
  | literal (l : Literal)
  | group (d : Delimiter) (inner : List Token)
  deriving Repr, Inhabited

namespace Delimiter

/-- The bracket that opens a group, with the blank that belongs to it. -/
def opening : Delimiter → String
  | parenthesis => "("
  | bracket => "["
  | brace => "\x7b "

/-- The bracket that closes a group. -/
def closing : Delimiter → String
  | parenthesis => ")"
  | bracket => "]"
  | brace => "\x7d"

/-- What stands between the last token of a group and its closing bracket. -/
def closingGap : Delimiter → String
  | brace => " "
  | _ => ""

end Delimiter

namespace Token

/-- A text literal with a given value. -/
def quoted (value : String) : Token := literal ⟨Text.quoted value, .text value⟩

/-- Whether the next token follows without a blank. -/
def isJoined : Token → Bool
  | sign _ joined => joined
  | _ => false

mutual

/-- The canonical text of a token. -/
def text : Token → String
  | word s => s
  | sign c _ => String.singleton c
  | literal l => l.spelling
  | group d inner =>
    match inner with
    | [] => d.opening ++ d.closing
    | t :: ts => d.opening ++ rowText (t :: ts) ++ d.closingGap ++ d.closing

/-- The canonical text of a row of tokens. -/
def rowText : List Token → String
  | [] => ""
  | [t] => t.text
  | t :: u :: rest => t.text ++ (if t.isJoined then "" else " ") ++ rowText (u :: rest)

end

end Token

/-- The signs of an operator, each joined to the next. -/
def joinedSigns : List Char → List Token
  | [] => []
  | [c] => [.sign c false]
  | c :: d :: rest => .sign c true :: joinedSigns (d :: rest)

/-- The tokens of an operator. -/
def operator (s : String) : List Token := joinedSigns s.toList

/-- The text of tokens without any blank. -/
def denseText (tokens : List Token) : String :=
  String.ofList ((Token.rowText tokens).toList.filter (· != ' '))

mutual

/-- How many tokens a tree has, its brackets counted. -/
def Token.size : Token → Nat
  | .group _ inner => 2 + rowSize inner
  | _ => 1

/-- How many tokens a row of trees has. -/
def rowSize : List Token → Nat
  | [] => 0
  | t :: rest => t.size + rowSize rest

end

end QueryMethods.Syntax
