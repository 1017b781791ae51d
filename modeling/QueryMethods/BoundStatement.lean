/-
Statements with the values for their markers.

For a database that knows positional markers only, a statement with named markers is
rewritten: each named marker becomes `?`, and its value is bound once for every time the
marker occurs.
-/
import QueryMethods.Value
import QueryMethods.Sql.Marker

namespace QueryMethods

/-- The values of a statement. -/
inductive Arguments
  /-- For the positional markers, in order. -/
  | positional (values : List Value)
  /-- For the named markers; of several with one name the first counts. -/
  | named (values : List (String × Value))
  deriving Repr

/-- A statement ready to run. -/
structure BoundStatement where
  sql : String
  arguments : Arguments
  deriving Repr

namespace Arguments

/-- How many values are bound. -/
def size : Arguments → Nat
  | positional values => values.length
  | named values => values.length

/-- The value bound to a name. -/
def named? (name : String) : Arguments → Option Value
  | positional _ => none
  | named values => values.lookup name

end Arguments

/-- Replaces the named markers among pieces and collects their values; fails at the first
marker without a value. -/
def fillMarkers (value? : String → Option Value) :
    List SqlPiece → Except Failure (List Char × List Value)
  | [] => .ok ([], [])
  | .named name :: rest =>
    match value? (String.ofList name) with
    | none => .error (.unboundParameter (String.ofList name))
    | some v => do
      let (sql, values) ← fillMarkers value? rest
      pure ('?' :: sql, v :: values)
  | piece :: rest => do
    let (sql, values) ← fillMarkers value? rest
    pure (piece.text ++ sql, values)

namespace BoundStatement

/-- The value bound to a name. -/
def named? (s : BoundStatement) (name : String) : Option Value := s.arguments.named? name

/-- The statement with positional markers only. -/
def toPositional (s : BoundStatement) : Except Failure BoundStatement :=
  match s.arguments with
  | .positional _ => .ok s
  | .named _ => do
    let (sql, values) ← fillMarkers s.named? (SqlPiece.scan s.sql.toList)
    pure ⟨String.ofList sql, .positional values⟩

end BoundStatement

end QueryMethods
