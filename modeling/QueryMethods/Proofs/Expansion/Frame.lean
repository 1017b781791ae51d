/-
What an expansion leaves as it was.

Expanding a block keeps its header and every item that is no method, and of a method it keeps
all but the attributes that only the expansion reads and, where there is something to
generate, the body.  `MethodFrame` lists what that is, part by part, and `Fills` what may stand in
the place of a body, token by token where the expansion puts it there.

That no method is left empty needs a look into the generation: a method without a body is
never passed over in silence, since every way of giving it no code comes with an issue, and
the first issue is what a call in its place says.
-/
import QueryMethods.Proofs.Expansion.Independence
import QueryMethods.Proofs.Generation.Bodies

namespace QueryMethods

open Syntax (ImplBlock ImplItem Input Method Token)

/-! ### Outcomes without a body -/

/-- **A candidate without a body that gets no code has an issue.** -/
theorem Surroundings.hasBody_of_generate {settings : RepositorySettings} {s : Surroundings}
    {c : Candidate} {query : Option QuerySettings} (hs : settings.surroundings = .ok s)
    (hc : c.FromSource) (hvalue : (s.generate c query).value? = none)
    (hissues : (s.generate c query).issues = []) : c.signature.hasBody = true := by
  have hgenerate : s.generate c query = ((generateMethod s.context (s.source c query).emitter
    c.signature (query.map (·.toQuery))).run ()).1 := rfl
  cases hplan : (planMethod s.context c.signature (query.map (·.toQuery))).value? with
  | some plan =>
      obtain ⟨body, -, hgenerates⟩ := exists_body_of_plan query hs hc hplan
      rw [generate_eq query hgenerates] at hvalue
      simp at hvalue
  | none =>
      rcases planMethod_of_no_plan hplan with hplanned | ⟨issues, hplanned, hne⟩ | ⟨-, hbody⟩
      · rw [hgenerate, generateMethod_of_unsupported _ hplanned] at hvalue
        exact absurd hvalue (Option.some_ne_none _)
      · rw [hgenerate, generateMethod_of_kept _ hplanned] at hissues
        exact absurd hissues hne
      · exact hbody

/-! ### What is shown of an issue -/

namespace Spelling

/-- What is said of an issue: the method, and what is wrong with it. -/
def message (issue : Issue) : String := "`" ++ issue.method ++ "`: " ++ issue.complaint

/-- The message of an issue with its code. -/
def note (issue : Issue) : String := message issue ++ " [sqlgen::" ++ issue.code ++ "]"

theorem message_eq (issue : Issue) : issue.message = message issue := rfl

theorem warningStatement_eq : warningStatement = fun issue => deprecation (note issue) := rfl

theorem errorItem_eq : errorItem = fun issue => compileError (note issue) :=
  funext (fun issue => compileErrorCall_eq issue.note)

end Spelling

/-! ### What is left of an item -/

/-- What is left of a parameter: all but the attributes that rename one with a type. -/
inductive InputFrame : Input × Bool → Input × Bool → Prop
  | receiver {attributes tokens comma} :
      InputFrame (.receiver attributes tokens, comma) (.receiver attributes tokens, comma)
  | typed {attributes pattern type comma} :
      InputFrame (.typed attributes pattern type, comma)
        (.typed (attributes.filter (fun a => !a.path.isName "param")) pattern type, comma)
  | variadic {tokens comma} : InputFrame (.variadic tokens, comma) (.variadic tokens, comma)

namespace Surroundings

variable {s : Surroundings}

/-- The statements are those of the code that is generated for a method with its own settings, and
the issues are those of the generation. -/
def Generated (s : Surroundings) (issues : List Issue) (m : Method)
    (statements : List (List Token)) : Prop :=
  ∃ query renames candidate code,
    QuerySettings.ofAttributes m.attributes = .ok query ∧ renamesOf m = .ok renames ∧
    Candidate.ofMethod (withoutSettings m) renames = .ok candidate ∧
    (s.generate candidate query).issues = issues ∧
    (s.generate candidate query).value? = some code ∧ BodyOf candidate.label code statements

/-- What may stand in the place of the statements of a method with the given issues. -/
inductive Fills (s : Surroundings) (issues : List Issue) (m : Method) :
    List (List Token) → Prop
  /-- What was there. -/
  | kept : m.body ≠ [] → Fills s issues m m.body
  /-- The code that is generated for the method, be it for a query or a placeholder. -/
  | generated {statements} : s.Generated issues m statements → Fills s issues m statements
  /-- In an empty body, a call that gives the first issue as its reason. -/
  | refused {reason rest} : m.body = [] → issues = reason :: rest →
      Fills s issues m [Spelling.unimplemented (Spelling.message reason)]

/-- What is left of a method with the given issues. -/
structure MethodFrame (s : Surroundings) (issues : List Issue) (m m' : Method) : Prop where
  attributes : m'.attributes = m.attributes.filter (fun a => !a.path.isName "native_query")
  visibility : m'.marks = m.marks
  marks : m'.header.marks = m.header.marks
  name : m'.header.name = m.header.name
  generics : m'.header.generics = m.header.generics
  inputs : List.Forall₂ InputFrame m.header.inputs m'.header.inputs
  result : m'.header.result = m.header.result
  /-- The body is filled in one of three ways; unless issues are errors, a warning for each
  comes first. -/
  body : ∃ statements, s.Fills issues m statements ∧
    m'.body = (if s.context.strict then [] else
      issues.map (fun issue => Spelling.deprecation (Spelling.note issue))) ++ statements
  /-- A body without a query stays, and nothing is reported of it. -/
  helper : m.body ≠ [] → (∀ a ∈ m.attributes, a.path.isName "native_query" = false) →
    m'.body = m.body ∧ issues = []
  /-- No body is left empty. -/
  filled : m.body = [] → m'.body.flatten ≠ []

/-- What is left of an item. -/
inductive ItemFrame (s : Surroundings) : ImplItem → ImplItem → Prop
  | other {tokens} : ItemFrame s (.other tokens) (.other tokens)
  | method {m m'} : s.MethodFrame (s.issuesOf (.method m)) m m' →
      ItemFrame s (.method m) (.method m')

theorem ItemFrame.eq_other {tokens : List Token} {item : ImplItem}
    (h : s.ItemFrame (.other tokens) item) : item = .other tokens := by
  cases h
  rfl

theorem ItemFrame.exists_method {m : Method} {item : ImplItem} (h : s.ItemFrame (.method m) item) :
    ∃ m', item = .method m' ∧ s.MethodFrame (s.issuesOf (.method m)) m m' := by
  cases h with
  | method hframe => exact ⟨_, rfl, hframe⟩

theorem Fills.flatten_ne_nil {issues : List Issue} {m : Method} {statements : List (List Token)}
    (h : s.Fills issues m statements) (hempty : m.body = []) : statements.flatten ≠ [] := by
  cases h with
  | kept hne => exact absurd hempty hne
  | generated hgenerated =>
      obtain ⟨_, _, _, _, -, -, -, -, -, hbody⟩ := hgenerated
      exact hbody.flatten_ne_nil
  | refused _ _ => exact List.cons_ne_nil _ _

theorem forall₂_inputFrame (inputs : List (Input × Bool)) :
    List.Forall₂ InputFrame inputs (inputs.map (fun (i, c) => (withoutRenames i, c))) := by
  induction inputs with
  | nil => exact .nil
  | cons input inputs ih =>
      refine .cons ?_ ih
      obtain ⟨input, comma⟩ := input
      cases input with
      | receiver attributes tokens => exact .receiver
      | typed attributes pattern type => exact .typed
      | variadic tokens => exact .variadic

theorem unlessEmpty_fills {issues rest : List Issue} {m : Method} {reason : Issue}
    (h : issues = reason :: rest) :
    s.Fills issues m ((NewBody.unlessEmpty (withoutSettings m) reason).statements m.body) := by
  by_cases hempty : m.body = []
  · have hrefused : NewBody.unlessEmpty (withoutSettings m) reason = .refused reason :=
      if_pos (List.isEmpty_iff.mpr hempty)
    rw [hrefused, NewBody.statements, Spelling.unimplementedCall_eq, Spelling.message_eq]
    exact .refused hempty h
  · have hkept : NewBody.unlessEmpty (withoutSettings m) reason = .kept :=
      if_neg (fun h => hempty (List.isEmpty_iff.mp h))
    rw [hkept]
    exact .kept hempty

/-- A method with a body and without a query is left alone. -/
theorem expandBody_of_helper {m : Method} (renames : List (Option String)) (h : m.body ≠ []) :
    s.expandBody m none renames = ⟨m, .kept, []⟩ := by
  have hhelper : (Option.isNone (none : Option QuerySettings) && !m.body.isEmpty) = true := by
    simp [h]
  rw [expandBody, if_pos hhelper]

theorem ofOutcome_fills {m : Method} {outcome : Outcome Code}
    (hcode : ∀ code, outcome.value? = some code → s.Fills outcome.issues m code.statements)
    (hsilent : outcome.value? = none → outcome.issues = [] → m.body ≠ []) :
    s.Fills outcome.issues m
      ((NewBody.ofOutcome (withoutSettings m) outcome).statements m.body) := by
  rw [NewBody.ofOutcome]
  cases hvalue : outcome.value? with
  | some code => exact hcode code hvalue
  | none =>
      cases hissues : outcome.issues with
      | nil => exact .kept (hsilent hvalue hissues)
      | cons reason rest => exact unlessEmpty_fills rfl

theorem expandBody_method (s : Surroundings) (m : Method) (query : Option QuerySettings)
    (renames : List (Option String)) : (s.expandBody m query renames).method = m := by
  rw [expandBody]
  split
  · rfl
  · split
    · rfl
    · rfl

theorem bodyOf_generate {candidate : Candidate} {query : Option QuerySettings} {code : Code}
    (h : (s.generate candidate query).value? = some code) :
    BodyOf candidate.label code code.statements :=
  (s.source candidate query).bodyOf_generated h

/-- **The body of a method is filled in one of three ways, never with nothing.** -/
theorem expandBody_fills {settings : RepositorySettings} (hs : settings.surroundings = .ok s)
    {m : Method} {query : Option QuerySettings} {renames : List (Option String)}
    (hquery : QuerySettings.ofAttributes m.attributes = .ok query)
    (hrenames : renamesOf m = .ok renames) :
    s.Fills (s.expandBody (withoutSettings m) query renames).issues m
      (s.expandBody (withoutSettings m) query renames).statements := by
  rw [MethodExpansion.statements, expandBody]
  by_cases hhelper : (query.isNone && !(withoutSettings m).body.isEmpty) = true
  · rw [if_pos hhelper]
    have hbody : m.body.isEmpty = false := by
      rw [Bool.and_eq_true, Bool.not_eq_true'] at hhelper
      exact hhelper.2
    exact .kept (List.isEmpty_eq_false_iff.mp hbody)
  · rw [if_neg hhelper]
    cases hc : Candidate.ofMethod (withoutSettings m) renames with
    | error issue => exact unlessEmpty_fills rfl
    | ok candidate =>
        refine ofOutcome_fills ?_ ?_
        · intro code hvalue
          exact .generated ⟨query, renames, candidate, code, hquery, hrenames, hc, rfl, hvalue,
            bodyOf_generate hvalue⟩
        · intro hvalue hissues hempty
          have hbody := hasBody_of_generate hs (Candidate.fromSource_of_ofMethod hc) hvalue hissues
          rw [Candidate.hasBody_of_ofMethod hc] at hbody
          have hnone : (withoutSettings m).body = [] := hempty
          rw [hnone] at hbody
          simp at hbody

/-! ### What an expansion leaves -/

theorem ofAttributes_of_no_query {m : Method}
    (h : ∀ a ∈ m.attributes, a.path.isName "native_query" = false) :
    QuerySettings.ofAttributes m.attributes = .ok none := by
  have hnone : m.attributes.filter QuerySettings.isQuery = [] := by
    rw [List.filter_eq_nil_iff]
    intro a ha
    rw [QuerySettings.isQuery, h a ha]
    exact Bool.false_ne_true
  rw [QuerySettings.ofAttributes, hnone]

/-- **What is left of a method that is expanded.** -/
theorem methodFrame_of_expandMethod {settings : RepositorySettings}
    (hs : settings.surroundings = .ok s) {m : Method} {e : MethodExpansion}
    (h : s.expandMethod m = .ok e) : s.MethodFrame e.issues m (e.result s.context.strict) := by
  obtain ⟨query, renames, hquery, hrenames, rfl⟩ := expandMethod_eq_ok h
  have hfills := expandBody_fills hs hquery (alone_eq_ok.mp hrenames)
  have hmethod := s.expandBody_method (withoutSettings m) query renames
  -- Only what it is filled with, and which method it is, counts from here on.
  generalize he : s.expandBody (withoutSettings m) query renames = e at hfills hmethod ⊢
  have hresult : e.result s.context.strict =
      { withoutSettings m with
        body := (if s.context.strict then [] else e.issues.map warningStatement) ++
          e.statements } := by
    rw [MethodExpansion.result, hmethod]
  rw [Spelling.warningStatement_eq] at hresult
  rw [hresult]
  refine ⟨rfl, rfl, rfl, rfl, rfl, forall₂_inputFrame _, rfl, ⟨_, hfills, rfl⟩, ?_, ?_⟩
  · intro hbody hnone
    rw [ofAttributes_of_no_query hnone] at hquery
    obtain rfl := Except.ok.inj hquery
    have hbody' : (withoutSettings m).body ≠ [] := hbody
    rw [expandBody_of_helper renames hbody'] at he
    subst he
    refine ⟨?_, rfl⟩
    show (if s.context.strict then [] else []) ++ m.body = m.body
    rw [ite_self, List.nil_append]
  · intro hempty
    show ((if s.context.strict then [] else _) ++ e.statements).flatten ≠ []
    rw [List.flatten_append]
    exact List.append_ne_nil_of_right_ne_nil _ (hfills.flatten_ne_nil hempty)

/-- **What is left of an item that is expanded.** -/
theorem itemFrame_of_expandItem {settings : RepositorySettings}
    (hs : settings.surroundings = .ok s) {item : ImplItem} {e : ItemExpansion}
    (h : s.expandItem item = .ok e) : s.ItemFrame item (e.result s.context.strict) := by
  cases item with
  | other tokens =>
      rw [← Except.ok.inj h]
      exact .other
  | method m =>
      obtain ⟨e', he, rfl⟩ := map_eq_ok.mp h
      refine ItemFrame.method ?_
      rw [issuesOf_of_ok h]
      exact methodFrame_of_expandMethod hs he

end Surroundings

theorem RepositorySettings.strict_of_surroundings {settings : RepositorySettings}
    {s : Surroundings} (h : settings.surroundings = .ok s) :
    s.context.strict = settings.strict := by
  obtain ⟨context, hcontext, h⟩ := exists_of_bind_eq_ok h
  obtain ⟨executor, -, h⟩ := exists_of_bind_eq_ok h
  obtain ⟨fields, -, h⟩ := exists_of_bind_eq_ok h
  obtain rfl := Except.ok.inj h
  cases htable : settings.tableName with
  | none =>
      rw [RepositorySettings.context, htable] at hcontext
      rw [← Except.ok.inj hcontext]
  | some table =>
      obtain ⟨fields', entity, -, -, -, rfl⟩ := context_eq_ok htable hcontext
      rfl

/-- **An expansion touches only what it generates.**  Header, items that are no methods, and of
each method everything but the settings and the body stay as they were, in their order; a body
without a query stays as well, with nothing reported of it, and no body is left empty.  What
is reported behind the block are the issues of its methods, and they only where the settings
are strict. -/
theorem RepositorySettings.expand_frame {settings : RepositorySettings} {b : ImplBlock}
    {e : Expansion} (h : settings.expand b = .ok e) :
    ∃ s, settings.surroundings = .ok s ∧ e.block.header = b.header ∧
      List.Forall₂ s.ItemFrame b.items e.block.items ∧
      e.errors = if settings.strict then
        (b.items.flatMap s.issuesOf).map (fun issue =>
          Spelling.compileError (Spelling.note issue)) else [] := by
  obtain ⟨s, es, hs, hes, rfl⟩ := expand_eq_ok h
  refine ⟨s, hs, rfl, ?_, ?_⟩
  · show List.Forall₂ s.ItemFrame b.items (es.map (·.result s.context.strict))
    rw [List.forall₂_map_right_iff]
    refine (Surroundings.forall₂_of_expandItems hes).imp ?_
    intro item e hitem
    exact Surroundings.itemFrame_of_expandItem hs hitem
  · rw [← strict_of_surroundings hs, ← Spelling.errorItem_eq]
    exact Surroundings.flatMap_errors hes s.context.strict

/-- A constant, a helper and a method that is not `async`, under strict settings: the first two
stay, and the last one is filled with a call that says what is wrong with it. -/
theorem RepositorySettings.expand_frame_constant_helper_count :
    let settings : RepositorySettings :=
      { defaults with
        table := some "users", fields := [⟨false, ["id"]⟩, ⟨false, ["name"]⟩], strict := true }
    let method (name : String) (inputs : List (Input × Bool)) (body : List (List Token)) : Method :=
      { attributes := [⟨false, ⟨⟨false, ["inline"]⟩, .nothing⟩⟩], marks := [.word "pub"], body
        header := { marks := [], name, generics := ⟨[], []⟩, inputs, result := none } }
    let constant : ImplItem := .other [.word "const"]
    let helper := method "helper" [] [[.word "true"]]
    let count := method "count" [(.receiver [] [.word "self"], false)] []
    let b : ImplBlock :=
      ⟨⟨[], [], ⟨[], []⟩, none, [.word "Users"]⟩, [constant, .method helper, .method count]⟩
    ∃ e helper' count', settings.expand b = .ok e ∧ e.block.header = b.header ∧
      e.block.items = [constant, .method helper', .method count'] ∧
      helper'.body = helper.body ∧ count'.body.flatten ≠ [] ∧
      count'.body = [Spelling.unimplemented "`count`: generated methods must be `async`"] ∧
      e.errors = [Spelling.compileError
        "`count`: generated methods must be `async` [sqlgen::not_async]"] := by
  intro settings method constant helper count b
  have hsome : (settings.expand b).toOption.isSome = true := by decide +kernel
  obtain ⟨e, he⟩ := exists_of_isSome_toOption hsome
  obtain ⟨s, hs, hheader, hitems, herrors⟩ := expand_frame he
  obtain ⟨item, rest, hconstant, hrest, heq⟩ := List.forall₂_cons_left_iff.mp hitems
  obtain ⟨item', rest', hhelper, hrest', rfl⟩ := List.forall₂_cons_left_iff.mp hrest
  obtain ⟨item'', rest'', hcount, hend, rfl⟩ := List.forall₂_cons_left_iff.mp hrest'
  obtain rfl := hconstant.eq_other
  obtain ⟨helper', rfl, hkept⟩ := hhelper.exists_method
  obtain ⟨count', rfl, hfilled⟩ := hcount.exists_method
  obtain rfl := List.forall₂_nil_left_iff.mp hend
  have hnone : ∀ a ∈ helper.attributes, a.path.isName "native_query" = false := by
    intro a ha
    rw [List.mem_singleton.mp ha]
    decide
  have hissues : b.items.flatMap s.issuesOf = [.notAsync "count"] := by
    rw [← Except.ok.inj hs]
    decide +kernel
  have hreason : s.issuesOf (.method count) = [.notAsync "count"] := by
    rw [← Except.ok.inj hs]
    decide +kernel
  have hstrict : s.context.strict = true := strict_of_surroundings hs
  rw [hissues] at herrors
  obtain ⟨statements, hfills, hbody⟩ := hfilled.body
  rw [hreason, if_pos hstrict, List.nil_append] at hbody
  have hcall : statements =
      [Spelling.unimplemented "`count`: generated methods must be `async`"] := by
    cases hfills with
    | kept hne => exact absurd rfl hne
    | generated hgenerated =>
        obtain ⟨query, renames, candidate, code, -, -, hcandidate, -⟩ := hgenerated
        exact nomatch hcandidate
    | refused _ hissues =>
        rw [hreason] at hissues
        rw [← (List.cons.inj hissues).1]
        rfl
  exact ⟨e, helper', count', he, hheader, heq, (hkept.helper (List.cons_ne_nil _ _) hnone).1,
    hfilled.filled rfl, hbody.trans hcall, herrors⟩

end QueryMethods
