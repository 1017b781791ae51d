/-
What runs statements.

An executor answers five requests.  Two must be given, all rows and the number of changed
rows; the other three have a meaning in terms of the first, which an executor may replace
by one of its own.  An executor handed on behind a reference passes the two given requests
on and answers the other three by that meaning.
-/
import QueryMethods.Row
import QueryMethods.BoundStatement

namespace QueryMethods

/-- A request over the state of an executor. -/
abbrev Request (σ α : Type) := ExceptT Failure (StateM σ) α

/-- What runs statements. -/
structure Executor (σ : Type) where
  /-- Every row. -/
  fetchAll : BoundStatement → Request σ (List Row)
  /-- How many rows changed. -/
  execute : BoundStatement → Request σ UInt64
  /-- One row or none. -/
  fetchOptional : BoundStatement → Request σ (Option Row)
  /-- Exactly one row. -/
  fetchOne : BoundStatement → Request σ Row
  /-- The first column of exactly one row. -/
  fetchScalar : BoundStatement → Request σ Value

namespace Executor

variable {σ : Type}

/-- One row or none out of all rows. -/
def atMostOne : List Row → Except Failure (Option Row)
  | [] => .ok none
  | [row] => .ok (some row)
  | rows => .error (.tooManyRows rows.length)

/-- A row that must be there. -/
def required : Option Row → Except Failure Row
  | some row => .ok row
  | none => .error .noRows

/-- An answer that is there already. -/
def answer {α : Type} (e : Except Failure α) : Request σ α := ExceptT.mk (pure e)

/-- The executor whose other requests have their meaning in terms of all rows. -/
def ofRequired (fetchAll : BoundStatement → Request σ (List Row))
    (execute : BoundStatement → Request σ UInt64) : Executor σ where
  fetchAll := fetchAll
  execute := execute
  fetchOptional s := do answer (atMostOne (← fetchAll s))
  fetchOne s := do answer (atMostOne (← fetchAll s) >>= required)
  fetchScalar s := do answer (atMostOne (← fetchAll s) >>= required >>= Row.first)

/-- An executor handed on behind a reference. -/
def behind (e : Executor σ) : Executor σ := ofRequired e.fetchAll e.execute

end Executor

end QueryMethods
