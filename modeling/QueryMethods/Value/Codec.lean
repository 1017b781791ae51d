/-
Typed values, and how they are bound as SQL values and read back.

The types that can be bound and read are described by `ValueType`, and each description
has a type of Lean values.  Binding never fails: an integer beyond 63 bits and a sign is
bound as its decimal text.  Reading widens where nothing is lost and fails otherwise.

Integers of all widths but the widest unsigned ones read booleans as zero and one.  The
widest unsigned ones read decimal text instead, because that is how they are bound.
-/
import QueryMethods.Value
import QueryMethods.Number.DecimalText

namespace QueryMethods

/-- The integer types. -/
inductive IntegerType
  | i8
  | i16
  | i32
  | i64
  | isize
  | u8
  | u16
  | u32
  | u64
  | usize
  deriving DecidableEq, Repr, Inhabited

namespace IntegerType

/-- Every integer type. -/
def all : List IntegerType := [i8, i16, i32, i64, isize, u8, u16, u32, u64, usize]

/-- The name of an integer type. -/
def name : IntegerType → String
  | i8 => "i8"
  | i16 => "i16"
  | i32 => "i32"
  | i64 => "i64"
  | isize => "isize"
  | u8 => "u8"
  | u16 => "u16"
  | u32 => "u32"
  | u64 => "u64"
  | usize => "usize"

/-- The least value of the type. -/
def least : IntegerType → Int
  | i8 => -128
  | i16 => -32768
  | i32 => -2147483648
  | i64 | isize => -9223372036854775808
  | u8 | u16 | u32 | u64 | usize => 0

/-- The greatest value of the type. -/
def greatest : IntegerType → Int
  | i8 => 127
  | i16 => 32767
  | i32 => 2147483647
  | i64 | isize => 9223372036854775807
  | u8 => 255
  | u16 => 65535
  | u32 => 4294967295
  | u64 | usize => 18446744073709551615

/-- The integers of the type. -/
abbrev Carrier (t : IntegerType) : Type := { n : Int // t.least ≤ n ∧ n ≤ t.greatest }

/-- An integer of the type, if it is in range. -/
def ofInt? (t : IntegerType) (n : Int) : Option t.Carrier :=
  if h : t.least ≤ n ∧ n ≤ t.greatest then some ⟨n, h⟩ else none

/-- Whether values of the type are bound and read as decimal text when they are too big. -/
def isWide : IntegerType → Bool
  | u64 | usize => true
  | _ => false

/-- The name that failures of reading use: the address-sized types read through the types
of the same width. -/
def readName : IntegerType → String
  | isize => "i64"
  | usize => "u64"
  | t => t.name

/-- Binds an integer. -/
def encode (t : IntegerType) (n : t.Carrier) : Value :=
  if n.val ≤ i64.greatest then .int (Int64.ofInt n.val) else .decimal (toString n.val)

/-- Reads an integer that must be in range, or fails naming what was found. -/
def checked (t : IntegerType) (n : Int) (found : String) : Except Failure t.Carrier :=
  match t.ofInt? n with
  | some x => .ok x
  | none => .error (.decode t.readName found)

/-- Reads an integer. -/
def decode (t : IntegerType) (v : Value) : Except Failure t.Carrier :=
  if t.isWide then
    match v with
    | .int n => t.checked n.toInt "negative int"
    | .decimal s =>
      match readNatural s with
      | some n => t.checked n "decimal"
      | none => v.misfit t.readName
    | _ => v.misfit t.readName
  else
    match v with
    | .int n => t.checked n.toInt "out of range int"
    | .bool b => t.checked (if b then 1 else 0) "bool"
    | _ => v.misfit t.readName

end IntegerType

/-- The types that can be bound and read. -/
inductive ValueType
  | bool
  | integer (t : IntegerType)
  | single
  | double
  | text
  | char
  /-- A value as it is. -/
  | value
  | option (t : ValueType)
  | list (t : ValueType)
  deriving DecidableEq, Repr, Inhabited

namespace ValueType

/-- The values of a type. -/
@[reducible] def Carrier : ValueType → Type
  | bool => Bool
  | integer t => t.Carrier
  | single => Single
  | double => Double
  | text => String
  | char => Char
  | value => Value
  | option t => Option t.Carrier
  | list t => List t.Carrier

/-- Binds a typed value. -/
def encode : (t : ValueType) → t.Carrier → Value
  | bool, b => .bool b
  | integer t, n => t.encode n
  | single, x => .float x.toDouble
  | double, x => .float x
  | text, s => .text s
  | char, c => .text (String.singleton c)
  | value, v => v
  | option _, none => .null
  | option t, some x => t.encode x
  | list t, xs => .list (xs.map t.encode)

/-- Reads a boolean; an integer is true unless it is zero. -/
def decodeBool : Value → Except Failure Bool
  | .bool b => .ok b
  | .int n => .ok (n != 0)
  | v => v.misfit "bool"

/-- Reads a double. -/
def decodeDouble (v : Value) : Except Failure Double :=
  match v with
  | .float x => .ok x
  | .int n => .ok (Double.ofInt n.toInt)
  | .decimal s =>
    match Double.ofText s with
    | some x => .ok x
    | none => v.misfit "f64"
  | _ => v.misfit "f64"

/-- Reads text; a decimal is read as its text. -/
def decodeText : Value → Except Failure String
  | .text s => .ok s
  | .decimal s => .ok s
  | v => v.misfit "String"

/-- Reads text of exactly one character. -/
def decodeChar (v : Value) : Except Failure Char :=
  match v with
  | .text s =>
    match s.toList with
    | [c] => .ok c
    | _ => .error (.decode "char" "text of another length")
  | _ => v.misfit "char"

/-- Reads every item of a list, in order; the first failure counts. -/
def decodeItems {α : Type} (decode : Value → Except Failure α) :
    List Value → Except Failure (List α)
  | [] => .ok []
  | v :: vs => do
    let x ← decode v
    let xs ← decodeItems decode vs
    pure (x :: xs)

/-- Reads a typed value. -/
def decode : (t : ValueType) → Value → Except Failure t.Carrier
  | bool, v => decodeBool v
  | integer t, v => t.decode v
  | single, v => (decodeDouble v).map Double.toSingle
  | double, v => decodeDouble v
  | text, v => decodeText v
  | char, v => decodeChar v
  | value, v => .ok v
  | option _, .null => .ok none
  | option t, v => (t.decode v).map some
  | list t, .list vs => decodeItems t.decode vs
  | list _, v => v.misfit "list"

end ValueType

/-- A value in its place in an ascending row without repeats. -/
def insertAscending {α : Type} [LT α] [DecidableLT α] (x : α) : List α → List α
  | [] => [x]
  | y :: ys => if x < y then x :: y :: ys else if y < x then y :: insertAscending x ys else y :: ys

/-- The elements of a row as a set: ascending, without repeats. -/
def ascending {α : Type} [LT α] [DecidableLT α] (xs : List α) : List α :=
  xs.foldl (fun sorted x => insertAscending x sorted) []

end QueryMethods
