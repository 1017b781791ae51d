/-
What makes bodies out of plans.

An emitter is given a plan in small steps and answers with whatever its output is.  It
may keep state between steps and any step may fail, its state kept.  A body is made as

    void, or a scalar of a mutation   update, then a cast for a scalar
    a scalar                          select, then a cast
    rows                              select, then a mapping
    a literal                         constant

followed by `finish`; a method without a plan gets one placeholder and nothing else.
-/
import QueryMethods.Plan

namespace QueryMethods

/-- What a fetched scalar is turned into. -/
inductive ScalarCast
  /-- The declared kind. -/
  | to (kind : ScalarKind)
  /-- Whether a count is above zero. -/
  | countToBool
  deriving DecidableEq, Repr

/-- A step over a state `σ` that may fail with `ε`; the state stays when it fails. -/
abbrev Step (σ ε α : Type) := ExceptT ε (StateM σ) α

/-- The steps that bodies are made by. -/
structure Emitter (σ ε ω : Type) where
  /-- Fetches rows or a scalar. -/
  select : Plan → Step σ ε ω
  /-- Executes and answers how many rows changed. -/
  update : Plan → Step σ ε ω
  /-- Turns a fetched scalar into the declared type. -/
  cast : ω → ScalarCast → Plan → Step σ ε ω
  /-- Turns fetched rows into the declared type. -/
  mapping : ω → Plan → Step σ ε ω
  /-- A literal boolean. -/
  constant : Bool → Step σ ε ω
  /-- A whole body for a method that has no plan. -/
  placeholder : String → Cardinality → Step σ ε ω
  /-- Wraps a value into a body. -/
  finish : ω → Plan → Step σ ε ω
  /-- The text of a failure. -/
  describe : ε → String

end QueryMethods
