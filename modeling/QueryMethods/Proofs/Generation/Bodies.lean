/-
What the bodies of a generation are.

A body is the last answer in a row of requests: a value that was finished, or a placeholder.  So
what is true of these two answers of an emitter is true of every body that is generated with it,
whatever it keeps, whatever else it is asked for and wherever it fails: `Builds` says it of the two
answers, and from there it is carried along the requests of a generation.

The emitter of code finishes a value as a result, behind a statement or not, and has a placeholder
for each number of rows.  `BodyOf` lists these forms with the tokens of their statements.
-/
import QueryMethods.Code.Emitter
import QueryMethods.Generation
import QueryMethods.Proofs.Planning.Derived
import QueryMethods.Proofs.Syntax.Spelling

namespace QueryMethods

open Syntax (Token)

variable {σ ε ω α β : Type}

/-! ### Programs and their answers -/

/-- What a program answers with has a property, wherever it starts. -/
def Yields (x : StateM σ α) (P : α → Prop) : Prop := ∀ s, P (x.run s).1

/-- What a step answers with has a property, wherever it starts, if it does not fail. -/
def Step.Answers (step : Step σ ε α) (P : α → Prop) : Prop :=
  Yields step.run (fun result => ∀ a, result = .ok a → P a)

section

variable {P : α → Prop} {Q : β → Prop}

theorem Yields.pure {a : α} (h : P a) : Yields (Pure.pure a : StateM σ α) P := fun _ => h

theorem Yields.bind {x : StateM σ α} {f : α → StateM σ β} (hx : Yields x P)
    (hf : ∀ a, P a → Yields (f a) Q) : Yields (x >>= f) Q := by
  intro s
  rw [StateT.run_bind]
  exact hf _ (hx s) _

/-- The last of two steps decides. -/
theorem Step.Answers.bind {x : Step σ ε α} {f : α → Step σ ε β} (hf : ∀ a, (f a).Answers Q) :
    (x >>= f).Answers Q := by
  have hany : Yields x.run (fun _ => True) := fun _ => trivial
  refine hany.bind (f := ExceptT.bindCont f) ?_
  intro result _
  cases result with
  | ok a => exact hf a
  | error e => exact .pure (fun _ h => nomatch h)

end

/-! ### Generated bodies -/

/-- The values that an emitter finishes, and its placeholders, have a property. -/
structure Emitter.Builds (E : Emitter σ ε ω) (P : ω → Prop) : Prop where
  finish : ∀ value plan, (E.finish value plan).Answers P
  placeholder : ∀ method cardinality, (E.placeholder method cardinality).Answers P

namespace Emitter.Builds

variable {E : Emitter σ ε ω} {P : ω → Prop} {context : Context}

theorem emitPlan (h : E.Builds P) (plan : Plan) (counts : Bool) :
    (emitPlan E plan counts).Answers P :=
  .bind (fun value => h.finish value plan)

theorem emitWay (h : E.Builds P) (plan : Plan) (way : ExistsWay) :
    (emitWay E plan way).Answers P := by
  cases way with
  | booleanCase => exact h.emitPlan plan false
  | countComparison => exact h.emitPlan plan true
  | literalFalse => exact .bind (fun value => h.finish value plan)

/-- Whichever way is taken, it ends in a body. -/
theorem emitExists (h : E.Builds P) (plan : Plan) (ways : List ExistsWay) :
    Yields (emitExists context E plan ways) (fun made => ∀ body, made.1 = some body → P body) := by
  induction ways with
  | nil => exact .pure (fun _ hnone => nomatch hnone)
  | cons way ways ih =>
      refine Yields.bind (h.emitWay (existsPlan context plan way) way) ?_
      intro result hresult
      cases result with
      | ok body =>
          refine .pure (fun body' hbody => ?_)
          rw [← Option.some.inj hbody]
          exact hresult body rfl
      | error e => exact ih.bind (fun made hmade => .pure hmade)

theorem emitMethod (h : E.Builds P) (operation : Option Operation) (plan : Plan) :
    Yields (emitMethod context E operation plan)
      (fun made => ∀ body, made.1 = some body → P body) := by
  by_cases hop : operation = some .exist
  · rw [QueryMethods.emitMethod, if_pos hop]
    exact h.emitExists plan ExistsWay.chain
  · rw [QueryMethods.emitMethod, if_neg hop]
    refine Yields.bind (h.emitPlan plan _) ?_
    intro result hresult
    cases result with
    | ok body =>
        refine .pure (fun body' hbody => ?_)
        rw [← Option.some.inj hbody]
        exact hresult body rfl
    | error e => exact .pure (fun _ hnone => nomatch hnone)

theorem emitPlaceholder (h : E.Builds P) (signature : Signature) (method : String)
    (issues : List Issue) :
    Yields (emitPlaceholder E signature method issues)
      (fun outcome => ∀ body, outcome.value? = some body → P body) := by
  refine Yields.bind (h.placeholder method _) ?_
  intro result hresult
  cases result with
  | ok body =>
      refine .pure (fun body' hbody => ?_)
      rw [← Option.some.inj hbody]
      exact hresult body rfl
  | error e => exact .pure (fun _ hnone => nomatch hnone)

theorem emitPlanned (h : E.Builds P) (signature : Signature) (operation : Option Operation)
    (plan : Plan) (issues : List Issue) :
    Yields (emitPlanned context E signature operation plan issues)
      (fun outcome => ∀ body, outcome.value? = some body → P body) := by
  refine (h.emitMethod operation plan).bind ?_
  rintro ⟨made, failures⟩ hmade
  cases made with
  | some body =>
      refine .pure (fun body' hbody => ?_)
      rw [Outcome.value?_ofIssues] at hbody
      exact hmade body' hbody
  | none => exact .pure (fun _ hnone => nomatch hnone)

/-- **Every body that is generated was finished, or it is a placeholder.** -/
theorem generateMethod (h : E.Builds P) (signature : Signature) (query : Option NativeQuery) :
    Yields (generateMethod context E signature query)
      (fun outcome => ∀ body, outcome.value? = some body → P body) := by
  unfold QueryMethods.generateMethod
  cases planMethod context signature query with
  | clean plan => exact h.emitPlanned _ _ _ _
  | warned plan issues => exact h.emitPlanned _ _ _ _
  | unsupported method issues body => exact h.emitPlaceholder _ _ _
  | kept method issues => exact .pure (fun _ hnone => nomatch hnone)
  | skipped method => exact .pure (fun _ hnone => nomatch hnone)

end Emitter.Builds

/-! ### Bodies of code -/

/-- What a method without a query answers with, by the number of rows that its result holds. -/
inductive PlaceholderAnswer (label : String) : Cardinality → List Token → Prop
  | list : PlaceholderAnswer label .list (Spelling.ok Spelling.defaultValue)
  | scalar : PlaceholderAnswer label .scalar (Spelling.ok Spelling.defaultValue)
  | optional : PlaceholderAnswer label .optional
      (Spelling.ok (Spelling.path ["core", "option", "Option", "None"]))
  | boolean : PlaceholderAnswer label .boolean (Spelling.ok [.word "false"])
  | void : PlaceholderAnswer label .void (Spelling.ok [.group .parenthesis []])
  /-- There is no row to answer with, so the call ends the program. -/
  | single : PlaceholderAnswer label .single
      (Spelling.unimplemented ("`" ++ label ++ "` matches no query convention"))

/-- Code that is the body of a method, with its statements. -/
inductive BodyOf (label : String) : Code → List (List Token) → Prop
  /-- The value is the result. -/
  | answer {value : Code} (hvalue : value.tokens ≠ []) :
      BodyOf label (.answer value) [Spelling.ok value.tokens]
  /-- The value is a statement, and the result holds nothing. -/
  | done {value : Code} (hvalue : value.tokens ≠ []) :
      BodyOf label (.done value)
        [value.tokens ++ [.sign ';' false], Spelling.ok [.group .parenthesis []]]
  /-- A call takes note of the method, and the result stands in for that of a query. -/
  | placeholder {type : Syntax.Ty} {cardinality : Cardinality} {answer : List Token}
      (hanswer : PlaceholderAnswer label cardinality answer) :
      BodyOf label (.placeholder label type cardinality)
        [Spelling.path ["sqlgen", "__private", "unsupported_method"] ++
          [.group .parenthesis [Spelling.textLiteral label], .sign ';' false], answer]

theorem Code.tokens_ne_nil (c : Code) : c.tokens ≠ [] := by
  cases c with
  | query q => exact List.cons_ne_nil _ _
  | bound c => exact List.cons_ne_nil _ _
  | readValue type c => exact List.cons_ne_nil _ _
  | isPositive c => exact List.append_ne_nil_of_right_ne_nil _ (List.cons_ne_nil _ _)
  | everyRow reading c => simp [tokens, Syntax.orReturn]
  | possibleRow reading c => simp [tokens, Syntax.orReturn]
  | oneRow reading c => exact List.cons_ne_nil _ _
  | literal b => exact List.cons_ne_nil _ _
  | answer c => exact List.cons_ne_nil _ _
  | done c => simp [tokens, Syntax.semicolon]
  | placeholder label type cardinality => exact List.cons_ne_nil _ _

theorem placeholderAnswer_of_cardinality (label : String) (cardinality : Cardinality) :
    PlaceholderAnswer label cardinality (placeholderResult label cardinality) := by
  cases cardinality with
  | list => exact .list
  | optional => exact .optional
  | single => exact .single
  | scalar => exact .scalar
  | boolean => exact .boolean
  | void => exact .void

theorem placeholderNote_eq (label : String) :
    placeholderNote label = Spelling.path ["sqlgen", "__private", "unsupported_method"] ++
      [.group .parenthesis [Spelling.textLiteral label], .sign ';' false] := by
  rw [placeholderNote, Syntax.libraryPath, Spelling.globalPath_cons]
  rfl

theorem bodyOf_body (label : String) (value : Code) (cardinality : Cardinality) :
    BodyOf label (.body value cardinality) (Code.body value cardinality).statements := by
  have hvalue := value.tokens_ne_nil
  cases cardinality with
  | void => exact .done hvalue
  | single => exact .answer hvalue
  | optional => exact .answer hvalue
  | list => exact .answer hvalue
  | scalar => exact .answer hvalue
  | boolean => exact .answer hvalue

theorem bodyOf_placeholder (label : String) (type : Syntax.Ty) (cardinality : Cardinality) :
    BodyOf label (.placeholder label type cardinality)
      (Code.placeholder label type cardinality).statements := by
  rw [Code.statements, placeholderNote_eq]
  exact .placeholder (placeholderAnswer_of_cardinality label cardinality)

theorem CodeSource.emitter_builds (s : CodeSource) :
    s.emitter.Builds (fun body => BodyOf s.candidate.label body body.statements) where
  finish value plan := .pure (fun body hbody => by
    rw [← Except.ok.inj hbody]
    exact bodyOf_body _ value plan.cardinality)
  placeholder method cardinality := .pure (fun body hbody => by
    rw [← Except.ok.inj hbody]
    exact bodyOf_placeholder _ _ cardinality)

/-- **Code that is generated for a source is a body of one of the forms.** -/
theorem CodeSource.bodyOf_generated (s : CodeSource) {context : Context} {signature : Signature}
    {query : Option NativeQuery} {code : Code}
    (h : ((generateMethod context s.emitter signature query).run ()).1.value? = some code) :
    BodyOf s.candidate.label code code.statements :=
  s.emitter_builds.generateMethod signature query () code h

theorem BodyOf.flatten_ne_nil {label : String} {code : Code} {statements : List (List Token)}
    (h : BodyOf label code statements) : statements.flatten ≠ [] := by
  cases h with
  | answer _ => exact List.cons_ne_nil _ _
  | done _ => simp [Spelling.ok]
  | placeholder _ => exact List.cons_ne_nil _ _

end QueryMethods
