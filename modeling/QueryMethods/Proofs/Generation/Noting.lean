/-
Emitters that keep a log of what failed.

Any emitter can be watched: each of its steps is made as before, and a failure is written
down in a log beside the state.  A generation that tries another way after a failure, or
that only reports it, cannot hide it from the log.

A step that does nothing but answer is answered in the same way by the watched emitter.
So what is proved once of every emitter that follows another in such steps holds of both,
and says of the watched one that its log stays as it was.
-/
import QueryMethods.Generation

namespace QueryMethods

variable {σ τ ε ω α : Type}

/-- A step that writes down its failure. -/
def Step.noting (step : Step σ ε α) : Step (σ × List ε) ε α :=
  ExceptT.mk (fun (s, failures) =>
    match step.run s with
    | (.ok a, s') => (.ok a, (s', failures))
    | (.error e, s') => (.error e, (s', failures ++ [e])))

/-- The failure that a step ended in, if it did. -/
def failureOf : Except ε α → List ε
  | .ok _ => []
  | .error e => [e]

theorem Step.run_noting (step : Step σ ε α) (s : σ) (failures : List ε) :
    step.noting.run.run (s, failures) =
      ((step.run.run s).1, ((step.run.run s).2, failures ++ failureOf (step.run.run s).1)) := by
  show (match step.run.run s with
    | (.ok a, s') => (Except.ok a, (s', failures))
    | (.error e, s') => (.error e, (s', failures ++ [e]))) = _
  obtain ⟨result, s'⟩ := step.run.run s
  cases result with
  | ok a =>
      show _ = (Except.ok a, (s', failures ++ []))
      rw [List.append_nil]
  | error e => rfl

theorem Step.noting_eq_pure {step : Step σ ε α} {a : α} (h : step = pure a) :
    step.noting = pure a := by
  rw [h]
  rfl

namespace Emitter

/-- An emitter whose steps write down their failures. -/
def noting (emitter : Emitter σ ε ω) : Emitter (σ × List ε) ε ω where
  select plan := (emitter.select plan).noting
  update plan := (emitter.update plan).noting
  cast fetched cast plan := (emitter.cast fetched cast plan).noting
  mapping fetched plan := (emitter.mapping fetched plan).noting
  constant value := (emitter.constant value).noting
  placeholder method cardinality := (emitter.placeholder method cardinality).noting
  finish body plan := (emitter.finish body plan).noting
  describe := emitter.describe

/-- An emitter that answers what another one answers wherever that one does nothing but
answer. -/
structure Follows (F : Emitter τ ε ω) (E : Emitter σ ε ω) : Prop where
  select : ∀ {plan a}, E.select plan = pure a → F.select plan = pure a
  update : ∀ {plan a}, E.update plan = pure a → F.update plan = pure a
  cast : ∀ {fetched cast plan a}, E.cast fetched cast plan = pure a →
    F.cast fetched cast plan = pure a
  mapping : ∀ {fetched plan a}, E.mapping fetched plan = pure a → F.mapping fetched plan = pure a
  constant : ∀ {value a}, E.constant value = pure a → F.constant value = pure a
  placeholder : ∀ {method cardinality a}, E.placeholder method cardinality = pure a →
    F.placeholder method cardinality = pure a
  finish : ∀ {body plan a}, E.finish body plan = pure a → F.finish body plan = pure a

theorem Follows.refl (E : Emitter σ ε ω) : E.Follows E :=
  ⟨id, id, id, id, id, id, id⟩

/-- An answer is an answer, watched or not. -/
theorem noting_follows (E : Emitter σ ε ω) : E.noting.Follows E where
  select h := Step.noting_eq_pure h
  update h := Step.noting_eq_pure h
  cast h := Step.noting_eq_pure h
  mapping h := Step.noting_eq_pure h
  constant h := Step.noting_eq_pure h
  placeholder h := Step.noting_eq_pure h
  finish h := Step.noting_eq_pure h

end Emitter

end QueryMethods
