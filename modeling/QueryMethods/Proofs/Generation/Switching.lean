/-
An emitter that is switched from one source to the next.

The emitter of a block keeps the source that it was last switched to, and the emitter of a
source keeps nothing.  As long as the one stays switched to the source of the other they
cannot be told apart: every request is answered in the same way, and none changes what the
emitter is switched to.  `Mimics` says that of any two emitters and a map from the states of the
one to those of the other, and since whatever is generated is made of requests, it is generated
in the same way.  A log of what failed may stand beside both states.

So what an emitter made code for before is forgotten with the switch, and a candidate gets the
outcome that an emitter of its own gives it.
-/
import QueryMethods.Proofs.Generation.Fallback
import QueryMethods.Proofs.Generation.Noting

namespace QueryMethods

variable {σ τ ε ω α β : Type}

/-! ### Programs over two kinds of states -/

/-- A program runs on the image of a state as another one runs on the state itself. -/
def RunsAs (image : σ → τ) (x : StateM τ α) (y : StateM σ α) : Prop :=
  ∀ s, x.run (image s) = ((y.run s).1, image (y.run s).2)

namespace RunsAs

variable {image : σ → τ}

theorem pure (a : α) : RunsAs image (Pure.pure a) (Pure.pure a) := fun _ => rfl

theorem bind {x : StateM τ α} {f : α → StateM τ β} {y : StateM σ α} {g : α → StateM σ β}
    (hx : RunsAs image x y) (hf : ∀ a, RunsAs image (f a) (g a)) :
    RunsAs image (x >>= f) (y >>= g) := by
  intro s
  rw [StateT.run_bind, StateT.run_bind, hx s]
  exact hf _ _

theorem bind_step {x : Step τ ε α} {f : α → Step τ ε β} {y : Step σ ε α}
    {g : α → Step σ ε β} (hx : RunsAs image x.run y.run)
    (hf : ∀ a, RunsAs image (f a).run (g a).run) :
    RunsAs image (x >>= f).run (y >>= g).run := by
  refine hx.bind (f := ExceptT.bindCont f) (g := ExceptT.bindCont g) ?_
  intro result
  cases result with
  | ok a => exact hf a
  | error e => exact RunsAs.pure (Except.error e)

/-- A log of what failed stands beside the state and its image alike. -/
theorem noting {x : Step τ ε α} {y : Step σ ε α} (h : RunsAs image x.run y.run) :
    RunsAs (Prod.map image id) x.noting.run y.noting.run := by
  rintro ⟨s, failures⟩
  show x.noting.run.run (image s, failures) = _
  rw [Step.run_noting, Step.run_noting, h s]
  rfl

end RunsAs

/-! ### Emitters that cannot be told apart -/

/-- An emitter answers every request on the image of a state as another one does on the state. -/
structure Emitter.Mimics (F : Emitter τ ε ω) (image : σ → τ) (E : Emitter σ ε ω) : Prop where
  answer : ∀ request, RunsAs image (F.answer request).run (E.answer request).run
  describe : F.describe = E.describe

theorem Emitter.answer_noting (E : Emitter σ ε ω) (request : StepRequest ω) :
    E.noting.answer request = (E.answer request).noting := by
  cases request <;> rfl

namespace Emitter.Mimics

variable {F : Emitter τ ε ω} {image : σ → τ} {E : Emitter σ ε ω} {context : Context}

/-- Emitters that cannot be told apart fail alike. -/
theorem noting (h : F.Mimics image E) : F.noting.Mimics (Prod.map image id) E.noting where
  answer request := by
    rw [answer_noting, answer_noting]
    exact (h.answer request).noting
  describe := h.describe

theorem chain (h : F.Mimics image E) (later : List (ω → StepRequest ω)) :
    ∀ request, RunsAs image (F.chain request later).run (E.chain request later).run := by
  induction later with
  | nil => exact h.answer
  | cons following later ih =>
      intro request
      exact (h.answer request).bind_step (fun out => ih (following out))

theorem emitPlan (h : F.Mimics image E) (plan : Plan) (counts : Bool) :
    RunsAs image (emitPlan F plan counts).run (emitPlan E plan counts).run := by
  rw [emitPlan_eq_chain, emitPlan_eq_chain]
  exact h.chain _ _

theorem emitExists (h : F.Mimics image E) (plan : Plan) (ways : List ExistsWay) :
    RunsAs image (emitExists context F plan ways) (emitExists context E plan ways) := by
  induction ways with
  | nil => exact .pure _
  | cons way ways ih =>
      have hway : RunsAs image (emitWay F (existsPlan context plan way) way).run
          (emitWay E (existsPlan context plan way) way).run := by
        rw [emitWay_eq_chain, emitWay_eq_chain]
        exact h.chain _ _
      refine hway.bind ?_
      intro result
      cases result with
      | ok body => exact .pure _
      | error e =>
          rw [h.describe]
          exact ih.bind (fun _ => .pure _)

theorem emitMethod (h : F.Mimics image E) (operation : Option Operation) (plan : Plan) :
    RunsAs image (emitMethod context F operation plan) (emitMethod context E operation plan) := by
  by_cases hop : operation = some .exist
  · rw [QueryMethods.emitMethod, QueryMethods.emitMethod, if_pos hop, if_pos hop]
    exact h.emitExists plan ExistsWay.chain
  · rw [QueryMethods.emitMethod, QueryMethods.emitMethod, if_neg hop, if_neg hop]
    refine (h.emitPlan plan _).bind ?_
    intro result
    cases result with
    | ok body => exact .pure _
    | error e =>
        rw [h.describe]
        exact .pure _

theorem emitPlaceholder (h : F.Mimics image E) (signature : Signature) (method : String)
    (issues : List Issue) :
    RunsAs image (emitPlaceholder F signature method issues)
      (emitPlaceholder E signature method issues) := by
  refine (h.answer (.placeholder method
    (resolveMapping method signature.returns .auto [] none).cardinality)).bind ?_
  intro result
  cases result with
  | ok body => exact .pure _
  | error e =>
      rw [h.describe]
      exact .pure _

/-- **A method is generated in the same way by emitters that cannot be told apart.** -/
theorem generateMethod (h : F.Mimics image E) (signature : Signature)
    (query : Option NativeQuery) :
    RunsAs image (generateMethod context F signature query)
      (generateMethod context E signature query) := by
  have hplanned : ∀ operation plan issues,
      RunsAs image (emitPlanned context F signature operation plan issues)
        (emitPlanned context E signature operation plan issues) := by
    intro operation plan issues
    refine (h.emitMethod operation plan).bind ?_
    rintro ⟨body, failures⟩
    cases body with
    | none => exact .pure _
    | some body => exact .pure _
  unfold QueryMethods.generateMethod
  cases planMethod context signature query with
  | clean plan => exact hplanned _ _ _
  | warned plan issues => exact hplanned _ _ _
  | unsupported method issues body => exact h.emitPlaceholder _ _ _
  | kept method issues => exact .pure _
  | skipped method => exact .pure _

end Emitter.Mimics

/-! ### The emitter of a block -/

/-- Switched to a source, the emitter of a block cannot be told from the emitter of the source. -/
theorem CodeSource.blockEmitter_mimics (source : CodeSource) :
    blockEmitter.Mimics (fun _ => some source) source.emitter where
  answer request := by
    cases request with
    | select plan => exact fun _ => rfl
    | update plan => exact fun _ => rfl
    | cast fetched cast plan => exact fun _ => rfl
    | mapping fetched plan => exact fun _ => rfl
    | constant value => exact fun _ => rfl
    | placeholder method cardinality => exact fun _ => rfl
    | finish body plan => exact fun _ => rfl
  describe := rfl

end QueryMethods
