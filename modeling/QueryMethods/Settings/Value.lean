/-
The values that settings take.

A setting is written as a word alone, with a list, or with a value.  Which of these a type
of values accepts, and what they mean, is said by a `ValueForm`; what it does not accept is
a problem named after the form or the kind of the value.
-/
import QueryMethods.Settings.Item
import QueryMethods.Naming
import QueryMethods.Mapping
import QueryMethods.Plan

namespace QueryMethods

open Syntax (LiteralValue Meta Expression Path PlainPath Token)

/-- How a type of values is written. -/
structure ValueForm (α : Type) where
  /-- A word alone. -/
  word : Except Problem α := .error (.here (.wrongForm "word"))
  /-- A list. -/
  list : List SettingItem → Except Problem α := fun _ => .error (.here (.wrongForm "list"))
  /-- A text. -/
  text : String → Except Problem α := fun _ => .error (.here (.wrongType "string"))
  /-- A boolean. -/
  bool : Bool → Except Problem α := fun _ => .error (.here (.wrongType "bool"))
  /-- An expression that is no literal. -/
  expression : Expression → Except Problem α := fun e => .error (.here (.wrongType e.kind.name))

/-- The name of a kind of literals in messages. -/
def literalKindName : Syntax.LiteralKind → String
  | .text _ => "string"
  | .bytes => "byte string"
  | .cText => "unknown"
  | .byte => "byte"
  | .char => "char"
  | .integer => "int"
  | .float => "float"

namespace ValueForm

variable {α β : Type}

/-- Reads a literal. -/
def ofLiteral (form : ValueForm α) : LiteralValue → Except Problem α
  | .bool b => form.bool b
  | .plain ⟨_, .text s⟩ => form.text s
  | .plain l => .error (.here (.wrongType (literalKindName l.kind)))

/-- Reads a value. -/
def ofExpression (form : ValueForm α) (e : Expression) : Except Problem α :=
  match e.kind with
  | .literal v => form.ofLiteral v
  | _ => form.expression e

/-- Reads a setting. -/
def ofMeta (form : ValueForm α) (m : Meta) : Except Problem α :=
  match m.body with
  | .nothing => form.word
  | .list _ ts => do form.list (← SettingItem.ofTokens ts)
  | .value e => form.ofExpression e

/-- The same form for other values. -/
def map (f : α → β) (form : ValueForm α) : ValueForm β where
  word := form.word.map f
  list items := (form.list items).map f
  text s := (form.text s).map f
  bool b := (form.bool b).map f
  expression e := (form.expression e).map f

/-- A text. -/
def string : ValueForm String where
  text := .ok

/-- A word of a fixed choice, written as a text. -/
def choice (read : String → Option α) : ValueForm α where
  text s := match read s with
    | some x => .ok x
    | none => .error (.here (.unknownValue s))

/-- A boolean; the word alone is true. -/
def boolean : ValueForm Bool where
  word := .ok true
  bool := .ok
  text s :=
    if s = "true" then .ok true
    else if s = "false" then .ok false
    else .error (.here (.unknownValue s))

/-- A path, as it is or as a text. -/
def path : ValueForm Path where
  text s := match Path.ofSource s with
    | some p => .ok p
    | none => .error (.here (.unknownValue s))
  expression e := match e.kind with
    | .path p => .ok p
    | _ => .error (.here (.wrongType e.kind.name))

/-- The path that an item is, if it is nothing else. -/
def itemPath : SettingItem → Except Problem PlainPath
  | .setting ⟨p, .nothing⟩ => .ok p
  | _ => .error (.here (.wrongType "non-word"))

/-- A list of paths. -/
def paths : ValueForm (List PlainPath) where
  list items := items.mapM itemPath

/-- The text that an item is. -/
def itemText : SettingItem → Except Problem String
  | .literal (.plain ⟨_, .text s⟩) => .ok s
  | _ => .error (.here .entryIsNoText)

/-- A list of columns with their properties. -/
def columns : ValueForm (List (String × String)) where
  list items := (items.mapM itemText).map readColumnMapping

/-- A value that a word alone leaves open. -/
def orOpen (form : ValueForm α) : ValueForm (Option α) :=
  { form.map some with word := .ok none }

/-- The setting of a record that has a form. -/
def setting {σ : Type} (form : ValueForm α) (name : String) (change : α → σ → σ) : Setting σ :=
  ⟨name, fun m => (form.ofMeta m).map change⟩

end ValueForm

end QueryMethods
