/-
An executor that answers from a script.

It keeps every statement it is given.  Each request for rows takes the next answer of the
script, either rows or an error of the database, and no rows once the script is used up;
every execution answers the same number of changed rows.
-/
import QueryMethods.Executor

namespace QueryMethods

/-- What is left of a script, and what was asked so far. -/
structure Script where
  /-- The answers still to be given: rows, or the text of an error. -/
  answers : List (Except String (List Row))
  /-- How many rows every execution changes. -/
  affected : UInt64
  /-- The statements given so far. -/
  asked : List BoundStatement

namespace Script

/-- Notes a statement. -/
def note (s : BoundStatement) : Request Script Unit :=
  modify (fun script => { script with asked := script.asked ++ [s] })

/-- Takes the next answer. -/
def next : Request Script (List Row) := do
  let script ← get
  match script.answers with
  | [] => pure []
  | answer :: answers =>
    set { script with answers }
    match answer with
    | .ok rows => pure rows
    | .error text => throw (.backend text)

/-- The executor that answers from a script. -/
def executor : Executor Script :=
  Executor.ofRequired (fun s => do note s; next) (fun s => do note s; pure (← get).affected)

end Script

end QueryMethods
