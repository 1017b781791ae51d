/-
Records that are read from rows.

Each field says where its value comes from:

    nothing said        the column of the field
    a new name          the column of that name
    nested              the columns whose names begin with that of the field, or with a
                        given text, and a point
    default             the column if it is there, a default value otherwise
    skip                always a default value

Only a record with named fields can be read, and a field that says two things which do not
go together is a problem of its own.
-/
import QueryMethods.Identifier
import QueryMethods.Settings.Gather
import QueryMethods.Settings.Value
import QueryMethods.Syntax.RecordType
import QueryMethods.Syntax.Phrase

namespace QueryMethods

open Syntax (Attribute Field Generics Token Ty TypeBody TypeDeclaration)

/-! ### Settings -/

/-- The settings of a record. -/
structure RecordSettings where
  naming : Naming

/-- The settings of a field. -/
structure FieldSettings where
  rename : Option String
  /-- Whether the field is a record of its own, and what its columns begin with if that is
  given. -/
  nested : Option (Option String)
  /-- Whether the column may be absent. -/
  mayLack : Bool
  skip : Bool

/-- The settings of a record by their names. -/
def RecordSettings.all : List (Setting RecordSettings) :=
  [(ValueForm.choice Naming.ofText).setting "naming" (fun v _ => ⟨v⟩)]

/-- The settings of a field by their names. -/
def FieldSettings.all : List (Setting FieldSettings) :=
  [ValueForm.string.setting "rename" (fun v s => { s with rename := some v }),
    ValueForm.string.orOpen.setting "nested" (fun v s => { s with nested := some v }),
    ValueForm.boolean.setting "default" (fun v s => { s with mayLack := v }),
    ValueForm.boolean.setting "skip" (fun v s => { s with skip := v })]

/-- The name of the attribute that settings of records and fields stand in. -/
def recordAttribute : String := "from_row"

/-- The items of an attribute with settings. -/
def itemsOfAttribute (a : Attribute) : Except Problem (List SettingItem) :=
  match a.content.body with
  | .nothing => .ok []
  | .list _ ts => SettingItem.ofTokens ts
  | .value _ => .error (.here (.valueForSettings recordAttribute))

/-- Takes in the settings of one attribute. -/
def Reading.takeAttribute {σ : Type} (settings : List (Setting σ)) (r : Reading σ)
    (a : Attribute) : Reading σ :=
  match itemsOfAttribute a with
  | .ok items => r.takeItems settings items
  | .error p => r.note p

/-- Reads settings from attributes. -/
def settingsOfAttributes {σ : Type} (settings : List (Setting σ)) (start : σ)
    (attributes : List Attribute) : Except (List Problem) σ :=
  ((attributes.filter (·.path.isName recordAttribute)).foldl (Reading.takeAttribute settings)
    ⟨start, [], []⟩).finish

/-- The settings of a record. -/
def RecordSettings.ofAttributes : List Attribute → Except (List Problem) RecordSettings :=
  settingsOfAttributes all ⟨.snake⟩

/-- The settings of a field. -/
def FieldSettings.ofField (f : Field) : Except (List Problem) FieldSettings :=
  (settingsOfAttributes all ⟨none, none, false, false⟩ f.attributes).mapError fun ps =>
    match f.name with
    | some name => ps.map (·.inside name)
    | none => ps

/-! ### Fields -/

/-- Where the value of a field comes from. -/
inductive FieldSource
  /-- A column that must be there. -/
  | column (name : String)
  /-- A column, or a default value. -/
  | columnOrDefault (name : String)
  /-- The columns that begin with a text and a point. -/
  | nested (start : String)
  /-- A default value. -/
  | default
  deriving DecidableEq, Repr

namespace FieldSettings

/-- The column of a field. -/
def column (s : FieldSettings) (naming : Naming) (identifier : String) : String :=
  s.rename.getD (naming.identifierColumn identifier)

/-- Where the value of a field comes from. -/
def source (s : FieldSettings) (naming : Naming) (identifier : String) :
    Except Problem FieldSource :=
  let column := s.column naming identifier
  match s.skip, s.nested, s.mayLack with
  | true, none, false => .ok .default
  | true, _, _ => .error (.here .skipConflict)
  | false, some _, true => .error (.here .nestedDefault)
  | false, some start, false => .ok (.nested (start.getD column))
  | false, none, true => .ok (.columnOrDefault column)
  | false, none, false => .ok (.column column)

end FieldSettings

/-- A field of a record, and where its value comes from. -/
structure RecordField where
  name : String
  type : Ty
  source : FieldSource

/-- A record that is read from rows. -/
structure Record where
  name : String
  generics : Generics
  fields : List RecordField

namespace Record

/-- The fields of a declared type, each with its settings. -/
def settledFields : TypeBody → Except (List Problem) (List (Field × FieldSettings))
  | .named fields | .numbered fields =>
    gather (fields.map (fun f => (FieldSettings.ofField f).map (fun s => (f, s))))
  | .union => .error [.here .isUnion]
  | .unit | .choice => .ok []

/-- Whether a declared type is a record with named fields. -/
def isRecord : TypeBody → Bool
  | .named _ => true
  | _ => false

/-- A field with where its value comes from. -/
def fieldOf (naming : Naming) (f : Field) (s : FieldSettings) : Except Problem RecordField := do
  let name := f.name.getD ""
  pure ⟨name, f.type, ← s.source naming name⟩

/-- The fields with where their values come from. -/
def fieldsOf (naming : Naming) (fields : List (Field × FieldSettings)) :
    Except (List Problem) (List RecordField) :=
  gather (fields.map (fun (f, s) => alone (fieldOf naming f s)))

/-- The record that a declared type is. -/
def ofDeclaration (d : TypeDeclaration) : Except (List Problem) Record := do
  let (settings, fields) ← both (RecordSettings.ofAttributes d.attributes) (settledFields d.body)
  if !isRecord d.body then throw [.here .notARecord]
  else pure ⟨d.name, d.generics, ← fieldsOf settings.naming fields⟩

/-- Why a source is no record that is read from rows. -/
inductive SourceError
  /-- The source cannot be read. -/
  | unreadable
  /-- The source is read and is no such record. -/
  | problems (ps : List Problem)

/-- The record that a source declares. -/
def ofSource (source : String) : Except SourceError Record := do
  let some d := TypeDeclaration.ofSource source | throw .unreadable
  (ofDeclaration d).mapError .problems

end Record

/-! ### Code -/

open Syntax in
/-- The tokens that read a column as a type. -/
def columnTokens (type : Ty) (column : String) : List Token :=
  .word "__row" :: fieldOf "get_as" ++ typeArguments type.tokens ++ inParens [.quoted column] ++
    orReturn

open Syntax in
/-- The tokens of the value of a field. -/
def FieldSource.tokens (type : Ty) : FieldSource → List Token
  | column name => columnTokens type name
  | columnOrDefault name =>
    let case (path arguments result : List Token) : List Token :=
      path ++ arguments ++ operator "=>" ++ result
    [.word "match", .word "__row"] ++ methodCall "get" [.quoted name] ++ inBraces (withCommas
      [case (globalPath ["core", "option", "Option", "Some"]) (inParens [.word "_"])
          (columnTokens type name),
        case (globalPath ["core", "option", "Option", "None"]) [] defaultCall])
  | nested start =>
    rowReader type.tokens ++
      inParens (.word "__row" :: methodCall "nested" [.quoted start]) ++ orReturn
  | default => defaultCall

/-- The tokens that fill a field. -/
def RecordField.tokens (f : RecordField) : List Token :=
  [.word f.name, .sign ':' false] ++ f.source.tokens f.type

open Syntax in
/-- The tokens of the implementation that reads a record. -/
def Record.tokens (r : Record) : List Token :=
  let result := globalPath ["core", "result", "Result"] ++
    inAngles (withCommas [[.word "Self"], libraryPath ["SqlError"]])
  let signature := [.word "fn", .word "from_row"] ++
    inParens ([.word "__row", .sign ':' false] ++ libraryPath ["Row"]) ++ operator "->" ++ result
  let body := okCall (.word "Self" :: inBraces (withCommas (r.fields.map RecordField.tokens)))
  .word "impl" :: r.generics.plainDeclarations ++ libraryPath ["FromRow"] ++
    [.word "for", .word r.name] ++ r.generics.references ++ r.generics.conditions ++
    inBraces (signature ++ inBraces body)

end QueryMethods
