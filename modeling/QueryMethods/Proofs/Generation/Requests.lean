/-
What an emitter is asked for.

A generation asks its emitter for one step after another.  A `StepRequest` is a step with
all that it is given, and a watched emitter writes down each request with the answer to it.
Nothing else changes: `Records` says of a program over emitters that it ends in the same
way whether its emitter is watched or not, and which exchanges the watched one notes.

Bodies are made by requests in a row, each of what the one before answered with, up to the
first that fails.  `Answered` describes the exchanges of such a row, and every row leaves
exchanges of that form, whatever the emitter does and wherever it fails.
-/
import QueryMethods.Generation

namespace QueryMethods

variable {σ ε ω α β : Type}

/-- A step that an emitter is asked for. -/
inductive StepRequest (ω : Type)
  | select (plan : Plan)
  | update (plan : Plan)
  | cast (fetched : ω) (cast : ScalarCast) (plan : Plan)
  | mapping (fetched : ω) (plan : Plan)
  | constant (value : Bool)
  | placeholder (method : String) (cardinality : Cardinality)
  | finish (body : ω) (plan : Plan)

/-- A request and the answer to it. -/
abbrev Exchange (ε ω : Type) := StepRequest ω × Except ε ω

/-- A step that writes down its request and its answer. -/
def Step.recorded (request : StepRequest ω) (step : Step σ ε ω) :
    Step (σ × List (Exchange ε ω)) ε ω :=
  ExceptT.mk (fun (s, log) =>
    ((step.run s).1, ((step.run s).2, log ++ [(request, (step.run s).1)])))

namespace Emitter

/-- The step of an emitter for a request. -/
def answer (E : Emitter σ ε ω) : StepRequest ω → Step σ ε ω
  | .select plan => E.select plan
  | .update plan => E.update plan
  | .cast fetched cast plan => E.cast fetched cast plan
  | .mapping fetched plan => E.mapping fetched plan
  | .constant value => E.constant value
  | .placeholder method cardinality => E.placeholder method cardinality
  | .finish body plan => E.finish body plan

/-- An emitter that writes down every request with its answer. -/
def recorded (E : Emitter σ ε ω) : Emitter (σ × List (Exchange ε ω)) ε ω where
  select plan := (E.select plan).recorded (.select plan)
  update plan := (E.update plan).recorded (.update plan)
  cast fetched cast plan := (E.cast fetched cast plan).recorded (.cast fetched cast plan)
  mapping fetched plan := (E.mapping fetched plan).recorded (.mapping fetched plan)
  constant value := (E.constant value).recorded (.constant value)
  placeholder method cardinality :=
    (E.placeholder method cardinality).recorded (.placeholder method cardinality)
  finish body plan := (E.finish body plan).recorded (.finish body plan)
  describe := E.describe

theorem answer_recorded (E : Emitter σ ε ω) (request : StepRequest ω) :
    E.recorded.answer request = (E.answer request).recorded request := by
  cases request <;> rfl

/-! ### Programs over emitters -/

/-- A program over emitters ends in the same way with an emitter and with the watched one,
which notes the exchanges of `log`. -/
structure Records (E : Emitter σ ε ω) (program : {τ : Type} → Emitter τ ε ω → StateM τ α)
    (s : σ) (a : α) (s' : σ) (log : List (Exchange ε ω)) : Prop where
  plain : (program E).run s = (a, s')
  watched : ∀ before, (program E.recorded).run (s, before) = (a, s', before ++ log)

namespace Records

variable {E : Emitter σ ε ω} {s s₁ s₂ : σ} {a : α} {b : β} {log₁ log₂ : List (Exchange ε ω)}

/-- A value that says no more of an emitter than the watched one says. -/
theorem pure {value : {τ : Type} → Emitter τ ε ω → α} (hplain : value E = a)
    (hwatched : value E.recorded = a) : E.Records (fun F => Pure.pure (value F)) s a s [] := by
  refine ⟨by rw [hplain]; rfl, ?_⟩
  intro before
  rw [hwatched, List.append_nil]
  rfl

theorem bind {x : {τ : Type} → Emitter τ ε ω → StateM τ α}
    {f : {τ : Type} → Emitter τ ε ω → α → StateM τ β} (hx : E.Records x s a s₁ log₁)
    (hf : E.Records (fun F => f F a) s₁ b s₂ log₂) :
    E.Records (fun F => x F >>= f F) s b s₂ (log₁ ++ log₂) := by
  refine ⟨?_, ?_⟩
  · rw [StateT.run_bind, hx.plain]
    exact hf.plain
  · intro before
    rw [StateT.run_bind, hx.watched before, ← List.append_assoc]
    exact hf.watched (before ++ log₁)

/-- What asks for nothing leaves no exchanges. -/
theorem bind_quiet {x : {τ : Type} → Emitter τ ε ω → StateM τ α}
    {f : {τ : Type} → Emitter τ ε ω → α → StateM τ β} (hx : E.Records x s a s₁ log₁)
    (hf : E.Records (fun F => f F a) s₁ b s₂ []) :
    E.Records (fun F => x F >>= f F) s b s₂ log₁ := by
  have h := hx.bind hf
  rw [List.append_nil] at h
  exact h

/-- A step that answers goes on with its answer. -/
theorem bind_ok {x : {τ : Type} → Emitter τ ε ω → Step τ ε α}
    {f : {τ : Type} → Emitter τ ε ω → α → Step τ ε β} {result : Except ε β}
    (hx : E.Records (fun F => (x F).run) s (.ok a) s₁ log₁)
    (hf : E.Records (fun F => (f F a).run) s₁ result s₂ log₂) :
    E.Records (fun F => (x F >>= f F).run) s result s₂ (log₁ ++ log₂) :=
  bind (f := fun F => ExceptT.bindCont (f F)) hx hf

/-- A step that fails ends what it stands in. -/
theorem bind_error {x : {τ : Type} → Emitter τ ε ω → Step τ ε α}
    {f : {τ : Type} → Emitter τ ε ω → α → Step τ ε β} {e : ε}
    (hx : E.Records (fun F => (x F).run) s (.error e) s₁ log₁) :
    E.Records (fun F => (x F >>= f F).run) s (.error e) s₁ log₁ :=
  bind_quiet (f := fun F => ExceptT.bindCont (f F)) hx (.pure rfl rfl)

/-- A request is answered as by the emitter itself, and noted. -/
theorem answer (E : Emitter σ ε ω) (request : StepRequest ω) (s : σ) :
    E.Records (fun F => (F.answer request).run) s ((E.answer request).run s).1
      ((E.answer request).run s).2 [(request, ((E.answer request).run s).1)] := by
  refine ⟨rfl, ?_⟩
  intro before
  rw [answer_recorded]
  rfl

end Records

/-! ### Requests in a row -/

/-- Requests one after the other, each of what the one before answered with. -/
def chain (E : Emitter σ ε ω) (request : StepRequest ω) : List (ω → StepRequest ω) → Step σ ε ω
  | [] => E.answer request
  | following :: later => do
    let out ← E.answer request
    E.chain (following out) later

end Emitter

/-- The exchanges of requests in a row and what they come to: each is a request of the answer
before, up to the first failure, which is what they come to. -/
inductive Answered :
    StepRequest ω → List (ω → StepRequest ω) → List (Exchange ε ω) → Except ε ω → Prop
  /-- The row ends where a request fails. -/
  | failed {request later e} : Answered request later [(request, .error e)] (.error e)
  /-- The last answer is what the row comes to. -/
  | last {request out} : Answered request [] [(request, .ok out)] (.ok out)
  /-- Any other answer is what the next request is made of. -/
  | next {request following later out log result} :
      Answered (following out) later log result →
      Answered request (following :: later) ((request, .ok out) :: log) result

namespace Answered

variable {request : StepRequest ω} {later : List (ω → StepRequest ω)}
variable {log : List (Exchange ε ω)} {result : Except ε ω}

/-- Nothing is asked for but the requests of the row. -/
theorem request_of_mem (h : Answered request later log result) {asked : StepRequest ω}
    {answer : Except ε ω} (hmem : (asked, answer) ∈ log) :
    asked = request ∨ ∃ following ∈ later, ∃ out, asked = following out := by
  induction h with
  | failed => exact Or.inl (Prod.mk.inj (List.mem_singleton.mp hmem)).1
  | last => exact Or.inl (Prod.mk.inj (List.mem_singleton.mp hmem)).1
  | @next request following later out log result hlater ih =>
      rcases List.mem_cons.mp hmem with hfirst | hmem
      · exact Or.inl (Prod.mk.inj hfirst).1
      · rcases ih hmem with rfl | ⟨other, hother, out', rfl⟩
        · exact Or.inr ⟨following, List.mem_cons_self, out, rfl⟩
        · exact Or.inr ⟨other, List.mem_cons_of_mem _ hother, out', rfl⟩

/-- What is asked for behind the first request is made of its answer, or comes later. -/
theorem of_mem_cons {following : ω → StepRequest ω}
    (h : Answered request (following :: later) log result) {asked : StepRequest ω}
    {answer : Except ε ω} (hmem : (asked, answer) ∈ log) (hne : asked ≠ request) :
    ∃ out, (request, .ok out) ∈ log ∧
      (asked = following out ∨ ∃ other ∈ later, ∃ out', asked = other out') := by
  cases h with
  | failed => exact absurd (Prod.mk.inj (List.mem_singleton.mp hmem)).1 hne
  | next hlater =>
      rcases List.mem_cons.mp hmem with hfirst | hmem
      · exact absurd (Prod.mk.inj hfirst).1 hne
      · exact ⟨_, List.mem_cons_self, hlater.request_of_mem hmem⟩

end Answered

/-- **Requests in a row are answered in a row, whatever the emitter does.** -/
theorem Emitter.exists_answered (E : Emitter σ ε ω) (later : List (ω → StepRequest ω)) :
    ∀ (request : StepRequest ω) (s : σ), ∃ result s' log,
      E.Records (fun F => (F.chain request later).run) s result s' log ∧
        Answered request later log result := by
  induction later with
  | nil =>
      intro request s
      refine ⟨_, _, _, Records.answer E request s, ?_⟩
      cases (E.answer request).run s with
      | mk answer s' =>
          cases answer with
          | error e => exact .failed
          | ok out => exact .last
  | cons following later ih =>
      intro request s
      have hfirst := Records.answer E request s
      generalize (E.answer request).run s = ran at hfirst
      obtain ⟨answer, s₁⟩ := ran
      cases answer with
      | error e => exact ⟨_, _, _, hfirst.bind_error, .failed⟩
      | ok out =>
          obtain ⟨result, s₂, log, hrecords, hanswered⟩ := ih (following out) s₁
          exact ⟨_, _, _, hfirst.bind_ok hrecords, .next hanswered⟩

end QueryMethods
