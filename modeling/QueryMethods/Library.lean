/-
The types that rows are read as.

A library holds records, each of which may nest only records behind it, so that reading a
row comes to an end.  Apart from its records a row can be read as itself or as a map from
columns to values.  Conversions turn one type into another.
-/
import QueryMethods.Datum
import QueryMethods.Record

namespace QueryMethods

open Syntax (Ty)

/-- Reads a row. -/
abbrev RowReader := Row → Except Failure Datum

/-- A way to turn the records of one type into those of another. -/
structure Conversion where
  source : String
  target : String
  convert : List (String × Datum) → List (String × Datum)

/-- The types that rows are read as. -/
structure Library where
  /-- The records, each in front of the ones that it nests. -/
  records : List Record
  conversions : List Conversion

namespace Library

/-- Reads a column as a type. -/
def readColumn (t : ValueType) (column : String) : RowReader :=
  fun row => (row.getAs t.decode column).map (.typed t)

/-- Reads a column as a type; without the column the value is the default one. -/
def readColumnOrDefault (t : ValueType) (column : String) : RowReader := fun row =>
  match row.get? column with
  | some _ => readColumn t column row
  | none => .ok (.typed t t.defaultValue)

/-- Reads fields, in order; the first failure counts. -/
def readFields (readers : List (String × RowReader)) : RowReader := fun row => do
  let fields ← readers.mapM (fun (name, read) => do pure (name, ← read row))
  pure (.record fields)

/-- The reader of a field; `nested` reads the records that it may nest. -/
def fieldReader (nested : Ty → Option RowReader) (f : RecordField) : Option RowReader :=
  match f.source with
  | .column name => f.type.valueType?.map (fun t => readColumn t name)
  | .columnOrDefault name => f.type.valueType?.map (fun t => readColumnOrDefault t name)
  | .nested start => (nested f.type).map (fun read row => read (row.nested start))
  | .default => f.type.valueType?.map (fun t _ => .ok (.typed t t.defaultValue))

/-- The reader of a type that is no record. -/
def plainReader : Ty → Option RowReader
  | .path (.mk _ name .absent) => if name = "Row" then some (fun row => .ok (.row row)) else none
  | .path (.mk _ name (.angled _ [.type key _, .type item _])) =>
    if name ∈ Syntax.mapNames ∧ key.valueType? = some .text then
      item.valueType?.map (fun t row => (row.toMap t.decode).map (.map t))
    else none
  | _ => none

/-- The name of a type that is nothing but a path without arguments. -/
def plainTypeName : Ty → Option String
  | .path (.mk _ name .absent) => some name
  | _ => none

/-- The reader of a type, given the records in scope. -/
def readerAmong : List Record → Ty → Option RowReader
  | [], type => plainReader type
  | r :: records, type =>
    if plainTypeName type = some r.name then
      (r.fields.mapM (fun f =>
        (fieldReader (readerAmong records) f).map (fun read => (f.name, read)))).map readFields
    else readerAmong records type

/-- The reader of a type. -/
def reader (l : Library) (type : Ty) : Option RowReader := readerAmong l.records type

/-- Turns a record of one type into one of another. -/
def convert (l : Library) (source target : Ty) (d : Datum) : Option Datum :=
  match d, l.conversions.find? (fun c =>
      some c.source == plainTypeName source && some c.target == plainTypeName target) with
  | .record fields, some c => some (.record (c.convert fields))
  | _, _ => none

end Library

end QueryMethods
