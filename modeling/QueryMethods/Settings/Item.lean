/-
The items of a settings list, and reading a list as a record.

A list of settings is a row of items with commas between them.  An item is a literal, or a
path with nothing, a list or a value behind it.  A record takes each of its settings from
the item with its name; items that fit no setting, or one that was given before, are
problems, and so are required settings that were never given.  Reading goes on behind a
problem, so that every one is found.
-/
import QueryMethods.Settings.Problem
import QueryMethods.Syntax.Source

namespace QueryMethods

open Syntax (LiteralValue Meta Reader Token Expression)

/-- An item of a settings list. -/
inductive SettingItem
  | literal (v : LiteralValue)
  | setting (m : Meta)

namespace SettingItem

/-- Whether a boolean is the name of a setting because a value follows it. -/
def isNamedBoolean (ts : List Token) : Bool :=
  (Reader.startsWord "true" ts || Reader.startsWord "false" ts) &&
    Reader.startsSign "=" (Reader.behind ts)

/-- Reads a path in which every word is a name. -/
def readPath : Reader Syntax.PlainPath := do
  let absolute ← Reader.nextSign "::"
  let _ ← Reader.optionalSign "::"
  pure ⟨absolute, ← Syntax.readNames Reader.startsAnyWord (← get).length⟩

/-- Reads an item. -/
def read (g : Syntax.Grammar) : Reader SettingItem := do
  let ts ← get
  if Reader.startsLiteral ts && !isNamedBoolean ts then
    match (← Syntax.readLiteralExpression).kind with
    | .literal v => pure (.literal v)
    | _ => Reader.expected "literal"
  else if Reader.startsAnyWord ts || Syntax.goesOn Reader.startsAnyWord ts then
    let path ← readPath
    pure (.setting ⟨path, ← g.readAttributeBody⟩)
  else Reader.expected "identifier or literal"

/-- Reads a list of settings. -/
def readList (ts : List Token) : Except Syntax.SyntaxError (List SettingItem) :=
  Syntax.readTokens
    (fun g => do pure ((← Reader.separated Reader.atEnd (read g)).map (·.1))) ts

/-- Reads the settings inside the parentheses of an attribute. -/
def ofTokens (ts : List Token) : Except Problem (List SettingItem) :=
  match readList ts with
  | .ok items => .ok items
  | .error e => .error (.here (.unreadable e))

end SettingItem

/-- One setting of a record: its name, and how an item changes the record. -/
structure Setting (σ : Type) where
  name : String
  read : Meta → Except Problem (σ → σ)

/-- A record while its settings are read: what it is so far, which settings were given, and
the problems, latest first. -/
structure Reading (σ : Type) where
  value : σ
  given : List String
  problems : List Problem

namespace Reading

variable {σ : Type}

/-- Notes a problem. -/
def note (r : Reading σ) (p : Problem) : Reading σ := { r with problems := r.problems ++ [p] }

/-- Takes in one item. -/
def takeItem (settings : List (Setting σ)) (r : Reading σ) : SettingItem → Reading σ
  | .literal _ => r.note (.here (.wrongForm "literal"))
  | .setting m =>
    let name := m.path.text
    match settings.find? (·.name == name) with
    | none => r.note (.here (.unknownName name (settings.map (·.name))))
    | some setting =>
      if r.given.contains name then r.note (.here (.repeated name))
      else
        let r := { r with given := name :: r.given }
        match setting.read m with
        | .ok change => { r with value := change r.value }
        | .error p => r.note (p.inside name)

/-- Takes in items, in order. -/
def takeItems (settings : List (Setting σ)) (r : Reading σ) (items : List SettingItem) :
    Reading σ :=
  items.foldl (takeItem settings) r

/-- Notes the required settings that were not given. -/
def require (names : List String) (r : Reading σ) : Reading σ :=
  (names.filter (fun name => !r.given.contains name)).foldl
    (fun r name => r.note (.here (.missing name))) r

/-- The record, if there is no problem. -/
def finish (r : Reading σ) : Except (List Problem) σ :=
  if r.problems.isEmpty then .ok r.value else .error r.problems

end Reading

/-- Reads a record from a list of settings. -/
def readSettings {σ : Type} (settings : List (Setting σ)) (required : List String) (start : σ)
    (items : List SettingItem) : Except (List Problem) σ :=
  ((Reading.takeItems settings ⟨start, [], []⟩ items).require required).finish

end QueryMethods
