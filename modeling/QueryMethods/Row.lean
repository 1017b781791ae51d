/-
The rows of a result: columns with names and values, in order.

A column is looked up by its exact name first and by its name up to the case of ASCII
letters otherwise; of several the first counts.
-/
import QueryMethods.Value.Codec

namespace QueryMethods

/-- A row of a result. -/
structure Row where
  cells : List (String × Value)
  deriving Repr, Inhabited

namespace Row

/-- The row without columns. -/
def empty : Row := ⟨[]⟩

/-- Appends a column. -/
def push (r : Row) (column : String) (v : Value) : Row := ⟨r.cells ++ [(column, v)]⟩

/-- The names of the columns, in order. -/
def columns (r : Row) : List String := r.cells.map (·.1)

/-- The position of a column. -/
def position? (r : Row) (column : String) : Option Nat :=
  match r.columns.findIdx? (· == column) with
  | some i => some i
  | none => r.columns.findIdx? (Text.sameIgnoringCase column)

/-- The value of a column. -/
def get? (r : Row) (column : String) : Option Value :=
  match r.position? column with
  | some i => (r.cells[i]?).map (·.2)
  | none => none

/-- The value of a column, which must be there. -/
def get (r : Row) (column : String) : Except Failure Value :=
  match r.get? column with
  | some v => .ok v
  | none => .error (.missingColumn column)

/-- Decodes the value of a column. -/
def getAs {α : Type} (decode : Value → Except Failure α) (r : Row) (column : String) :
    Except Failure α := do
  decode (← r.get column)

/-- Removes the column at a position: its value, and the row without it. -/
def removeAt (r : Row) (i : Nat) : Option (Value × Row) :=
  (r.cells[i]?).map (fun (_, v) => (v, ⟨r.cells.eraseIdx i⟩))

/-- Removes a column and decodes its value; the column is gone even if its value cannot be
decoded. -/
def take {α : Type} (decode : Value → Except Failure α) (r : Row) (column : String) :
    Except Failure α × Row :=
  match (r.position? column).bind r.removeAt with
  | some (v, rest) => (decode v, rest)
  | none => (.error (.missingColumn column), r)

/-- The value of the first column. -/
def first (r : Row) : Except Failure Value :=
  match r.cells with
  | [] => .error (.missingColumn "<first>")
  | (_, v) :: _ => .ok v

/-- Gives the column at a position another name. -/
def renameAt (r : Row) (i : Nat) (name : String) : Row :=
  ⟨r.cells.modify i (fun (_, v) => (name, v))⟩

/-- Renames one column, if it is there. -/
def rename (r : Row) (column name : String) : Row :=
  match r.position? column with
  | some i => r.renameAt i name
  | none => r

/-- Renames columns pair by pair, each pair seeing what the ones before it left. -/
def remap (r : Row) (mapping : List (String × String)) : Row :=
  mapping.foldl (fun r (column, name) => r.rename column name) r

/-- The columns named with a prefix and a point, without these. -/
def nested (r : Row) (start : String) : Row :=
  let opening := start.toList ++ ['.']
  ⟨r.cells.filterMap (fun (column, v) =>
    if opening.isPrefixOf column.toList
    then some (String.ofList (column.toList.drop opening.length), v) else none)⟩

/-- Puts a value under its key into a row of keys in ascending order; a key that is there
already gets the new value. -/
def putKey {α : Type} (key : String) (x : α) : List (String × α) → List (String × α)
  | [] => [(key, x)]
  | (k, y) :: rest =>
    if key < k then (key, x) :: (k, y) :: rest
    else if key = k then (key, x) :: rest
    else (k, y) :: putKey key x rest

/-- Decodes the value of every column, in order; the first failure counts. -/
def readCells {α : Type} (decode : Value → Except Failure α) :
    List (String × Value) → Except Failure (List (String × α))
  | [] => .ok []
  | (column, v) :: rest => do
    let x ← decode v
    let xs ← readCells decode rest
    pure ((column, x) :: xs)

/-- The row as a map from columns to decoded values, by ascending key; of several columns with
one name the last counts. -/
def toMap {α : Type} (decode : Value → Except Failure α) (r : Row) :
    Except Failure (List (String × α)) := do
  let pairs ← readCells decode r.cells
  pure (pairs.foldl (fun m (column, x) => putKey column x m) [])

end Row

end QueryMethods
