/-
The settings of a method: a query written by hand, and names for its parameters.
-/
import QueryMethods.Settings.Value
import QueryMethods.Syntax.Shape

namespace QueryMethods

open Syntax (Path Attribute Token Meta Reader)

/-- The settings of a hand-written query. -/
structure QuerySettings where
  sql : String
  /-- The type that rows are read as before they become the declared one. -/
  resultType : Option Path
  mapping : MappingStrategy
  columns : List (String × String)
  isUpdate : Bool
  style : Option BindingStyle
  validate : Bool

namespace QuerySettings

/-- The settings when nothing is given. -/
def defaults : QuerySettings := ⟨"", none, .auto, [], false, none, true⟩

/-- The settings by their names. -/
def all : List (Setting QuerySettings) :=
  [ValueForm.string.setting "sql" (fun v s => { s with sql := v }),
    ValueForm.path.setting "result_type" (fun v s => { s with resultType := some v }),
    (ValueForm.choice MappingStrategy.ofText).setting "mapping"
      (fun v s => { s with mapping := v }),
    ValueForm.columns.setting "column_mapping" (fun v s => { s with columns := v }),
    ValueForm.boolean.setting "is_update" (fun v s => { s with isUpdate := v }),
    (ValueForm.choice BindingStyle.ofText).setting "parameter_type"
      (fun v s => { s with style := some v }),
    ValueForm.boolean.setting "validate_sql" (fun v s => { s with validate := v })]

/-- Reads the settings of a query from its attribute. -/
def ofMeta (m : Meta) : Except (List Problem) QuerySettings :=
  match m.body with
  | .list _ ts =>
    match SettingItem.ofTokens ts with
    | .ok items => readSettings all ["sql"] defaults items
    | .error p => .error [p]
  | _ =>
    match ({} : ValueForm QuerySettings).ofMeta m with
    | .ok s => .ok s
    | .error p => .error [p]

/-- The query for the planning of the method. -/
def toQuery (s : QuerySettings) : NativeQuery :=
  ⟨s.sql, s.resultType.map Path.shape, s.mapping, s.columns, s.isUpdate, s.style, s.validate⟩

/-- Whether an attribute gives a query. -/
def isQuery (a : Attribute) : Bool := a.path.isName "native_query"

/-- The query among the attributes of a method, if it has one. -/
def ofAttributes (attributes : List Attribute) : Except (List Problem) (Option QuerySettings) :=
  match attributes.filter isQuery with
  | [] => .ok none
  | [a] => (ofMeta a.content).map some
  | _ :: _ :: _ => .error [.here .secondQuery]

end QuerySettings

/-- Whether an attribute gives a parameter another name. -/
def isRename (a : Attribute) : Bool := a.path.isName "param"

/-- The text that is all of a row of tokens. -/
def onlyText (ts : List Token) : Except Problem String :=
  let text : Reader String := do
    match ← get with
    | .literal ⟨_, .text value⟩ :: rest => set rest; pure value
    | _ => Reader.expected "string literal"
  match Reader.readAll text ts with
  | .ok value => .ok value
  | .error e => .error (.here (.unreadable e))

/-- The name that an attribute gives a parameter. -/
def readRename (a : Attribute) : Except Problem String :=
  match a.content.body with
  | .list _ ts => onlyText ts
  | .nothing => .error (.here (.noParentheses a.path.text))
  | .value _ => .error (.here (.valueForParentheses a.path.text))

/-- The name that attributes give a parameter; the last one counts. -/
def renameOf (attributes : List Attribute) : Except Problem (Option String) := do
  pure (← (attributes.filter isRename).mapM readRename).getLast?

end QueryMethods
