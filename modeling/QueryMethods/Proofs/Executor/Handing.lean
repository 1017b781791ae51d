/-
What becomes of an executor that is handed on.

Behind a reference an executor passes on the two requests that every executor must answer itself.
The other three it answers by their meaning in terms of all rows, whatever the executor behind it
would have answered.  An executor that leaves these three their meaning is therefore the same
behind any number of references, in its answers and in what it does to its state; one that
answers any of them in a way of its own is not, since its way is never asked for.

Two executors that leave the three requests their meaning are the same if they are so in the
other two.  That is `Plain.ext`, and with it both directions hang on one fact: behind a reference
every executor leaves them their meaning.
-/
import Mathlib.Logic.Function.Iterate
import QueryMethods.Executor.Script

namespace QueryMethods

namespace Executor

variable {σ : Type} {e e' : Executor σ}

/-- The executor leaves the requests for single rows their meaning: at most one of all rows, that
row if it must be there, and its first column. -/
structure Plain (e : Executor σ) : Prop where
  fetchOptional : ∀ s, e.fetchOptional s = do answer (atMostOne (← e.fetchAll s))
  fetchOne : ∀ s, e.fetchOne s = do answer (required (← e.fetchOptional s))
  fetchScalar : ∀ s, e.fetchScalar s = do answer (Row.first (← e.fetchOne s))

/-- Answers that are there already can be made one after the other or at once. -/
theorem answer_bind {α β : Type} (x : Except Failure α) (f : α → Except Failure β) :
    ((answer x : Request σ α) >>= fun a => answer (f a)) = answer (x >>= f) := by
  cases x with
  | error failure => rfl
  | ok a => rfl

theorem bind_answer_bind {α β γ : Type} (q : Request σ α) (f : α → Except Failure β)
    (g : β → Except Failure γ) :
    ((q >>= fun a => answer (f a)) >>= fun b => answer (g b)) =
      q >>= fun a => answer (f a >>= g) := by
  rw [bind_assoc]
  simp only [answer_bind]

/-- What only answers the two requests that it must leaves the others their meaning. -/
theorem ofRequired_plain (fetchAll : BoundStatement → Request σ (List Row))
    (execute : BoundStatement → Request σ UInt64) : (ofRequired fetchAll execute).Plain where
  fetchOptional _ := rfl
  fetchOne s := (bind_answer_bind (fetchAll s) atMostOne required).symm
  fetchScalar s :=
    (bind_answer_bind (fetchAll s) (fun rows => atMostOne rows >>= required) Row.first).symm

theorem behind_plain (e : Executor σ) : e.behind.Plain :=
  ofRequired_plain e.fetchAll e.execute

/-- What leaves those requests their meaning is given by the other two. -/
theorem Plain.ext (h : e.Plain) (h' : e'.Plain) (hall : e.fetchAll = e'.fetchAll)
    (hexecute : e.execute = e'.execute) : e = e' := by
  have hoptional : e.fetchOptional = e'.fetchOptional := by
    funext s
    rw [h.fetchOptional, h'.fetchOptional, hall]
  have hone : e.fetchOne = e'.fetchOne := by
    funext s
    rw [h.fetchOne, h'.fetchOne, hoptional]
  have hscalar : e.fetchScalar = e'.fetchScalar := by
    funext s
    rw [h.fetchScalar, h'.fetchScalar, hone]
  cases e
  cases e'
  simp only [mk.injEq]
  exact ⟨hall, hexecute, hoptional, hone, hscalar⟩

theorem behind_eq_self_iff : e.behind = e ↔ e.Plain := by
  constructor
  · intro h
    rw [← h]
    exact behind_plain e
  · intro h
    exact (behind_plain e).ext h rfl rfl

/-- One reference more changes nothing. -/
theorem iterate_behind_succ (e : Executor σ) (n : Nat) : behind^[n + 1] e = e.behind := by
  induction n with
  | zero => rfl
  | succ n ih =>
      rw [Function.iterate_succ_apply', ih]
      rfl

/-- What replaces no request is the same behind any number of references. -/
theorem iterate_behind_of_plain (h : e.Plain) (n : Nat) : behind^[n] e = e :=
  Function.iterate_fixed (behind_eq_self_iff.2 h) n

/-- **An executor is the same behind references exactly if it replaces no request.**

However many references it is handed on behind, the two requests that it must answer are its own
and, from the first reference on, the other three have their meaning in terms of these.  So all
five are its own, in their answers and in their effects, exactly if it leaves the three their
meaning. -/
theorem iterate_behind_transparent_iff (e : Executor σ) (n : Nat) :
    (behind^[n] e).fetchAll = e.fetchAll ∧ (behind^[n] e).execute = e.execute ∧
    (behind^[n + 1] e).Plain ∧ (behind^[n + 1] e = e ↔ e.Plain) := by
  have hkeeps : (behind^[n] e).fetchAll = e.fetchAll ∧ (behind^[n] e).execute = e.execute := by
    cases n with
    | zero => exact ⟨rfl, rfl⟩
    | succ n =>
        rw [iterate_behind_succ]
        exact ⟨rfl, rfl⟩
  have hplain : (behind^[n + 1] e).Plain := by
    rw [iterate_behind_succ]
    exact behind_plain e
  refine ⟨hkeeps.1, hkeeps.2, hplain, ?_⟩
  constructor
  · intro heq
    rw [heq] at hplain
    exact hplain
  · intro h
    exact iterate_behind_of_plain h (n + 1)

/-- An executor that takes the first of several rows refuses them behind a reference. -/
theorem behind_of_first_row :
    let e : Executor Script := { Script.executor with
      fetchOptional := fun s => do pure (← Script.executor.fetchAll s).head? }
    let s : BoundStatement := ⟨"SELECT n FROM numbers", .positional []⟩
    let script : Script := ⟨[.ok [⟨[("n", .int 1)]⟩, ⟨[("n", .int 2)]⟩]], 0, []⟩
    ((e.fetchOptional s).run.run script).1 = .ok (some ⟨[("n", .int 1)]⟩) ∧
      ((e.behind.fetchOptional s).run.run script).1 = .error (.tooManyRows 2) ∧
      e.behind.fetchOptional s ≠ e.fetchOptional s := by
  intro e s script
  have hown : ((e.fetchOptional s).run.run script).1 = .ok (some ⟨[("n", .int 1)]⟩) := rfl
  have hbehind : ((e.behind.fetchOptional s).run.run script).1 = .error (.tooManyRows 2) := rfl
  refine ⟨hown, hbehind, fun heq => ?_⟩
  rw [heq, hown] at hbehind
  exact nomatch hbehind

end Executor

end QueryMethods
