/-
The SQL that a method name stands for.

    find, find all   SELECT * FROM t [WHERE …]
    count            SELECT COUNT(*) FROM t [WHERE …]
    exists           one of the ways in `ExistsWay`
    delete           DELETE FROM t [WHERE …]
    save             INSERT INTO t (c1, c2) VALUES (?, ?)
    update           UPDATE t SET c2 = ?, c3 = ? [WHERE key = ?]

Conditions are written in the order of the name, and so are their slots.
-/
import QueryMethods.Sql.Template
import QueryMethods.MethodName
import QueryMethods.Entity

namespace QueryMethods

/-- The ways to answer whether a row exists. -/
inductive ExistsWay
  /-- The query answers with a boolean. -/
  | booleanCase
  /-- The query counts and the caller compares with zero. -/
  | countComparison
  /-- Nothing is asked; the answer is `false`. -/
  | literalFalse
  deriving DecidableEq, Repr, Inhabited

namespace ExistsWay

/-- The ways in the order they are tried. -/
def chain : List ExistsWay := [booleanCase, countComparison, literalFalse]

/-- The name of a way in messages. -/
def name : ExistsWay → String
  | booleanCase => "BooleanCase"
  | countComparison => "CountComparison"
  | literalFalse => "LiteralFalse"

/-- What the query of a way selects, if it has one. -/
def projection : ExistsWay → Option String
  | booleanCase => some "CASE WHEN COUNT(*) > 0 THEN TRUE ELSE FALSE END"
  | countComparison => some "COUNT(*)"
  | literalFalse => none

end ExistsWay

/-- Why a method name has no SQL. -/
inductive TemplateError
  /-- The name begins with no known operation. -/
  | unknownOperation (method : String)
  /-- There are no fields to store. -/
  | noFields (method : String)
  /-- Every field is the key, so nothing can be set. -/
  | nothingToSet (method : String)
  /-- The way to answer asks nothing. -/
  | noStatement (way : ExistsWay)
  deriving DecidableEq, Repr

namespace TemplateError

/-- What is said of a name without SQL. -/
def message : TemplateError → String
  | unknownOperation method => s!"`{method}` has no recognised operation prefix"
  | noFields method => s!"`{method}` needs entity fields but the schema declares none"
  | nothingToSet method => s!"`{method}` has no non-key fields to update"
  | noStatement way => s!"exists strategy `{way.name}` renders no SQL"

end TemplateError

/-- Texts with a comma and a space between them. -/
def commaSeparated (parts : List String) : String := String.intercalate ", " parts

namespace Entity

variable (e : Entity) (naming : Naming)

/-- One condition in SQL. -/
def conditionText (c : Condition) : String :=
  e.column naming c.field ++ " " ++ c.comparison.token ++ c.comparison.operands

/-- A later condition in SQL, behind its connector. -/
def linkedText (c : Condition) : String :=
  " " ++ c.connector.token ++ " " ++ e.conditionText naming c

/-- The clause that filters by conditions; empty when there are none. -/
def whereClause : List Condition → String
  | [] => ""
  | first :: others =>
    " WHERE " ++ e.conditionText naming first ++ String.join (others.map (e.linkedText naming))

/-- The slots of conditions: as many as the comparison takes values. -/
def whereSlots (conditions : List Condition) : List Slot :=
  conditions.zipIdx.flatMap (fun (c, i) => List.replicate c.comparison.arity (.condition i c.field))

/-- The rows that meet conditions, under a projection. -/
def selectTemplate (projection : String) (conditions : List Condition) : Template :=
  ⟨"SELECT " ++ projection ++ " FROM " ++ e.table ++ e.whereClause naming conditions, .select,
    whereSlots conditions⟩

/-- Deletes the rows that meet conditions. -/
def deleteTemplate (conditions : List Condition) : Template :=
  ⟨"DELETE FROM " ++ e.table ++ e.whereClause naming conditions, .delete, whereSlots conditions⟩

/-- Inserts every field. -/
def insertTemplate : Template :=
  ⟨"INSERT INTO " ++ e.table ++ " (" ++ commaSeparated (e.fields.map (e.column naming)) ++
      ") VALUES (" ++ commaSeparated (e.fields.map (fun _ => "?")) ++ ")",
    .insert, e.fields.map .field⟩

/-- Sets one field. -/
def assignment (field : String) : String := e.column naming field ++ " = ?"

/-- The clause that picks the row by its key; empty when there is no key. -/
def keyClause : String :=
  match e.key with
  | some key => " WHERE " ++ e.assignment naming key
  | none => ""

/-- Sets every field that is not the key, in the row with the key. -/
def updateTemplate : Template :=
  ⟨"UPDATE " ++ e.table ++ " SET " ++
      commaSeparated (e.nonKeyFields.map (e.assignment naming)) ++ e.keyClause naming,
    .update, e.nonKeyFields.map .field ++ e.key.toList.map .field⟩

/-- The SQL of an existence method in one of its ways. -/
def existsTemplate (name : MethodName) (way : ExistsWay) : Except TemplateError Template :=
  match way.projection with
  | some projection => .ok (e.selectTemplate naming projection name.conditions)
  | none => .error (.noStatement way)

/-- The SQL of a method name. -/
def template (name : MethodName) : Except TemplateError Template :=
  match name.operation with
  | .find | .findAll => .ok (e.selectTemplate naming "*" name.conditions)
  | .count => .ok (e.selectTemplate naming "COUNT(*)" name.conditions)
  | .exist => e.existsTemplate naming name .booleanCase
  | .delete => .ok (e.deleteTemplate naming name.conditions)
  | .save => if e.fields.isEmpty then .error (.noFields name.text) else .ok (e.insertTemplate naming)
  | .update =>
    if e.fields.isEmpty then .error (.noFields name.text)
    else if e.nonKeyFields.isEmpty then .error (.nothingToSet name.text)
    else .ok (e.updateTemplate naming)
  | .unknown => .error (.unknownOperation name.text)

end Entity

end QueryMethods
