/-
Generated code, token by token.

The phrases that code is built from are written for whoever writes code: a path is a list of
names, an operator is a text, and rows of tokens are joined by what stands between them.  Here
the same phrases are written down for whoever reads code, as nothing but the tokens that stand
there.  A statement about generated code is made with these, and the equations below say that the
phrases come to them.
-/
import QueryMethods.Syntax.Phrase

namespace QueryMethods

open Syntax (Token)

namespace Spelling

/-- A text literal: the text in quotes, and the text that it stands for. -/
def textLiteral (text : String) : Token := .literal ⟨Text.quoted text, .text text⟩

/-- Names that each stand behind a double colon. -/
def path (names : List String) : List Token :=
  names.flatMap (fun name => [.sign ':' true, .sign ':' false, .word name])

/-- Rows of tokens with commas between them. -/
def separated (rows : List (List Token)) : List Token := [Token.sign ',' false].intercalate rows

/-- `::core::result::Result::Ok(value)` -/
def ok (value : List Token) : List Token :=
  path ["core", "result", "Result", "Ok"] ++ [.group .parenthesis value]

/-- `::core::default::Default::default()` -/
def defaultValue : List Token :=
  path ["core", "default", "Default", "default"] ++ [.group .parenthesis []]

/-- `::core::unimplemented!("{}", "message")` -/
def unimplemented (message : String) : List Token :=
  path ["core", "unimplemented"] ++
    [.sign '!' false, .group .parenthesis
      [textLiteral "\x7b\x7d", .sign ',' false, textLiteral message]]

/-- `::core::compile_error! { "text" }` -/
def compileError (text : String) : List Token :=
  path ["core", "compile_error"] ++ [.sign '!' false, .group .brace [textLiteral text]]

/-- `{ #[deprecated(note = "text")] #[allow(non_camel_case_types)] struct sqlgen_issue;
let _ = sqlgen_issue; }` -/
def deprecation (text : String) : List Token :=
  [.group .brace
    [.sign '#' false, .group .bracket [.word "deprecated", .group .parenthesis
        [.word "note", .sign '=' false, textLiteral text]],
      .sign '#' false, .group .bracket [.word "allow", .group .parenthesis
        [.word "non_camel_case_types"]],
      .word "struct", .word "sqlgen_issue", .sign ';' false,
      .word "let", .word "_", .sign '=' false, .word "sqlgen_issue", .sign ';' false]]

/-! ### What the phrases come to -/

theorem operator_colons : Syntax.operator "::" = [.sign ':' true, .sign ':' false] := rfl

theorem operator_arrow : Syntax.operator "->" = [.sign '-' true, .sign '>' false] := rfl

theorem operator_doubleArrow : Syntax.operator "=>" = [.sign '=' true, .sign '>' false] := rfl

theorem colons_nameTokens (name : String) (names : List String) :
    Syntax.operator "::" ++ Syntax.nameTokens (name :: names) = path (name :: names) := by
  induction names generalizing name with
  | nil => rfl
  | cons next names ih =>
      show Syntax.operator "::" ++
        .word name :: (Syntax.operator "::" ++ Syntax.nameTokens (next :: names)) = _
      rw [ih next]
      rfl

theorem globalPath_cons (name : String) (names : List String) :
    Syntax.globalPath (name :: names) = path (name :: names) := colons_nameTokens name names

theorem withCommas_eq (rows : List (List Token)) : Syntax.withCommas rows = separated rows := by
  induction rows with
  | nil => rfl
  | cons row rows ih =>
      cases rows with
      | nil => simp [Syntax.withCommas, separated]
      | cons next rows =>
          rw [Syntax.withCommas, ih, separated, separated, List.intercalate_cons_cons]
          simp

theorem okCall_eq (value : List Token) : Syntax.okCall value = ok value := by
  rw [Syntax.okCall, globalPath_cons]
  rfl

theorem defaultCall_eq : Syntax.defaultCall = defaultValue := by
  rw [Syntax.defaultCall, globalPath_cons]
  rfl

theorem unimplementedCall_eq (message : String) :
    Syntax.unimplementedCall message = unimplemented message := by
  rw [Syntax.unimplementedCall, globalPath_cons]
  rfl

theorem compileErrorCall_eq (text : String) :
    Syntax.compileErrorCall text = compileError text := by
  rw [Syntax.compileErrorCall, globalPath_cons]
  rfl

end Spelling

end QueryMethods
