/-
A block that is expanded item by item.

From one item to the next go the source that the emitter was last switched to, the problems
and the errors.  None of it has a say in what an item becomes: the source is replaced before
anything is asked of the emitter, and the lists only grow at their ends.  So a step of the
loop puts down what the item expands to on its own, and adds its problems and its errors;
`Adds` says that of one item, and by induction of a row of them.

A block is expanded exactly where the list of problems stays empty.  That this is where every
item can be expanded takes one more fact, that nothing is refused without a problem.
-/
import QueryMethods.Proofs.Generation.NoFailure
import QueryMethods.Proofs.Settings.Gathering

namespace QueryMethods

open Syntax (ImplBlock ImplHeader ImplItem Method)

/-- What is handled is there or its problems are noted. -/
theorem Progress.handle_run {α : Type} (r : Except (List Problem) α) (p : Progress) :
    (handle r).run p = (r.toOption, { p with problems := p.problems ++ problemsOf r }) := by
  cases r with
  | ok a =>
      show (some a, p) = (some a, { p with problems := p.problems ++ [] })
      rw [List.append_nil]
  | error ps => rfl

namespace Surroundings

variable {s : Surroundings}

/-! ### Items on their own -/

/-- The settings of a method, as far as they can be read, decide whether it is expanded. -/
theorem expandMethod_eq_map (s : Surroundings) (m : Method) :
    s.expandMethod m = (both (QuerySettings.ofAttributes m.attributes) (alone (renamesOf m))).map
      (fun (query, renames) => s.expandBody (withoutSettings m) query renames) := by
  rw [expandMethod]
  cases both (QuerySettings.ofAttributes m.attributes) (alone (renamesOf m)) <;> rfl

theorem problemsOf_expandMethod (s : Surroundings) (m : Method) :
    problemsOf (s.expandMethod m) =
      problemsOf (QuerySettings.ofAttributes m.attributes) ++ problemsOf (alone (renamesOf m)) := by
  rw [expandMethod_eq_map, problemsOf_map, problemsOf_both]

/-- A method is expanded with the settings that are read. -/
theorem expandMethod_eq_ok {m : Method} {e : MethodExpansion} (h : s.expandMethod m = .ok e) :
    ∃ query renames, QuerySettings.ofAttributes m.attributes = .ok query ∧
      alone (renamesOf m) = .ok renames ∧ e = s.expandBody (withoutSettings m) query renames := by
  rw [expandMethod_eq_map] at h
  obtain ⟨⟨query, renames⟩, hread, rfl⟩ := map_eq_ok.mp h
  obtain ⟨hquery, hrenames⟩ := both_eq_ok.mp hread
  exact ⟨query, renames, hquery, hrenames, rfl⟩

theorem expandItem_reasoned (s : Surroundings) (item : ImplItem) :
    Reasoned (s.expandItem item) := by
  cases item with
  | other ts => exact fun _ => ⟨.other ts, rfl⟩
  | method m =>
      rw [expandItem, expandMethod_eq_map]
      exact (((QuerySettings.ofAttributes_reasoned _).both (.alone _)).map _).map _

theorem expandItems_reasoned (s : Surroundings) (items : List ImplItem) :
    Reasoned (s.expandItems items) := by
  refine Reasoned.gather ?_
  intro r hr
  obtain ⟨item, -, rfl⟩ := List.mem_map.mp hr
  exact s.expandItem_reasoned item

/-- Items are expanded if each of them is. -/
theorem expandItems_eq_ok {items : List ImplItem} {es : List ItemExpansion} :
    s.expandItems items = .ok es ↔ items.map s.expandItem = es.map .ok := gather_eq_ok

theorem expandItems_append (xs ys : List ImplItem) (es : List ItemExpansion) :
    s.expandItems (xs ++ ys) = .ok es ↔
      ∃ es₁ es₂, s.expandItems xs = .ok es₁ ∧ s.expandItems ys = .ok es₂ ∧ es = es₁ ++ es₂ := by
  simp only [expandItems_eq_ok, List.map_append]
  constructor
  · intro h
    obtain ⟨es₁, es₂, rfl, h₁, h₂⟩ := List.append_eq_map_iff.mp h
    exact ⟨es₁, es₂, h₁.symm, h₂.symm, rfl⟩
  · rintro ⟨es₁, es₂, h₁, h₂, rfl⟩
    rw [h₁, h₂, List.map_append]

/-! ### One item -/

/-- What a row of items adds to what is carried, if on their own they expand to `r`: their
problems, and if there is none, the items that they become and their errors. -/
structure Adds (s : Surroundings) (r : Except (List Problem) (List ItemExpansion))
    (p : Progress) (items : List ImplItem) (p' : Progress) : Prop where
  problems : p'.problems = p.problems ++ problemsOf r
  expanded : ∀ es, r = .ok es → items = es.map (·.result s.context.strict) ∧
    p'.errors = p.errors ++ es.flatMap (·.errors s.context.strict)

/-- The body of a method is what it is on its own, whatever is carried. -/
theorem expandNextBody_run (s : Surroundings) (m : Method) (query : Option QuerySettings)
    (renames : List (Option String)) (p : Progress) :
    ∃ current, (s.expandNextBody m query renames).run p =
      (s.expandBody m query renames, { p with current }) := by
  rw [expandNextBody, expandBody]
  by_cases hhelper : (query.isNone && !m.body.isEmpty) = true
  · rw [if_pos hhelper, if_pos hhelper]
    exact ⟨p.current, rfl⟩
  · rw [if_neg hhelper, if_neg hhelper]
    cases Candidate.ofMethod m renames with
    | error issue => exact ⟨p.current, rfl⟩
    | ok candidate =>
        refine ⟨some (s.source candidate query), ?_⟩
        simp only [StateT.run_bind, generateNext_run]
        rfl

theorem expandNext_of_ok {m : Method} {e : MethodExpansion} (h : s.expandMethod m = .ok e)
    (p : Progress) : ∃ current, (s.expandNext (.method m)).run p =
      (.method (e.result s.context.strict),
        ⟨current, p.problems, p.errors ++ e.errors s.context.strict⟩) := by
  obtain ⟨query, renames, hquery, hrenames, rfl⟩ := expandMethod_eq_ok h
  obtain ⟨current, hbody⟩ := s.expandNextBody_run (withoutSettings m) query renames p
  refine ⟨current, ?_⟩
  rw [expandNext, hquery, hrenames, Progress.handle, pure_bind, Progress.handle, pure_bind,
    StateT.run_bind, hbody]
  rfl

theorem expandNext_of_error {m : Method} {ps : List Problem} (h : s.expandMethod m = .error ps)
    (p : Progress) : (s.expandNext (.method m)).run p =
      (.method (withoutSettings m), { p with problems := p.problems ++ ps }) := by
  have hps : ps = problemsOf (QuerySettings.ofAttributes m.attributes) ++
      problemsOf (alone (renamesOf m)) := by
    rw [← problemsOf_expandMethod, h]
    rfl
  rw [hps, ← List.append_assoc, expandNext]
  simp only [StateT.run_bind, Progress.handle_run]
  -- The first of the two that has problems decides which branch is run.
  rw [expandMethod_eq_map] at h
  cases hquery : QuerySettings.ofAttributes m.attributes with
  | error qs => rfl
  | ok query =>
      cases hrenames : alone (renamesOf m) with
      | error qs => rfl
      | ok renames =>
          rw [hquery, hrenames] at h
          simp [both, Except.map] at h

/-- **One step of the loop.**  An item becomes what it becomes on its own, and nothing that is
carried is lost. -/
theorem expandNext_run (s : Surroundings) (item : ImplItem) (p : Progress) :
    ∃ item' p', (s.expandNext item).run p = (item', p') ∧
      s.Adds ((s.expandItem item).map ([·])) p [item'] p' := by
  cases item with
  | other ts =>
      refine ⟨.other ts, p, rfl, (List.append_nil _).symm, ?_⟩
      intro es h
      rw [← Except.ok.inj h]
      exact ⟨rfl, (List.append_nil _).symm⟩
  | method m =>
      rw [expandItem]
      cases hm : s.expandMethod m with
      | error ps =>
          refine ⟨_, _, expandNext_of_error hm p, rfl, ?_⟩
          intro es h
          simp [Except.map] at h
      | ok e =>
          obtain ⟨current, hrun⟩ := expandNext_of_ok hm p
          refine ⟨_, _, hrun, (List.append_nil _).symm, ?_⟩
          intro es h
          rw [← Except.ok.inj h, List.flatMap_singleton]
          exact ⟨rfl, rfl⟩

/-! ### A row of items -/

/-- What an item adds and what the rest adds is what the row adds. -/
theorem Adds.cons {r : Except (List Problem) ItemExpansion}
    {rs : Except (List Problem) (List ItemExpansion)} {p p' p'' : Progress} {item : ImplItem}
    {items : List ImplItem} (hstep : s.Adds (r.map ([·])) p [item] p')
    (hrest : s.Adds rs p' items p'') :
    s.Adds ((both r rs).map (fun (e, es) => e :: es)) p (item :: items) p'' := by
  refine ⟨?_, ?_⟩
  · rw [hrest.problems, hstep.problems, problemsOf_map, problemsOf_map, problemsOf_both,
      List.append_assoc]
  · intro es h
    obtain ⟨⟨e, es⟩, hboth, rfl⟩ := map_eq_ok.mp h
    obtain ⟨rfl, rfl⟩ := both_eq_ok.mp hboth
    obtain ⟨hitem, herrors⟩ := hstep.expanded [e] rfl
    obtain ⟨hitems, herrors'⟩ := hrest.expanded es rfl
    rw [List.map_singleton] at hitem
    rw [List.flatMap_singleton] at herrors
    refine ⟨?_, ?_⟩
    · rw [List.map_cons, ← hitems, (List.cons.inj hitem).1]
    · rw [herrors', herrors, List.flatMap_cons, List.append_assoc]

/-- **A run of the loop.**  A row of items becomes what its items become on their own, whatever
was expanded before. -/
theorem mapM_expandNext_run (s : Surroundings) (items : List ImplItem) :
    ∀ p : Progress, ∃ items' p', (items.mapM s.expandNext).run p = (items', p') ∧
      s.Adds (s.expandItems items) p items' p' := by
  induction items with
  | nil =>
      intro p
      refine ⟨[], p, rfl, (List.append_nil _).symm, ?_⟩
      intro es h
      rw [← Except.ok.inj h]
      exact ⟨rfl, (List.append_nil _).symm⟩
  | cons item items ih =>
      intro p
      obtain ⟨item', p', hitem, hstep⟩ := s.expandNext_run item p
      obtain ⟨items', p'', hitems, hrest⟩ := ih p'
      refine ⟨item' :: items', p'', ?_, hstep.cons hrest⟩
      rw [List.mapM_cons, StateT.run_bind, hitem]
      show (items.mapM s.expandNext >>= _).run p' = _
      rw [StateT.run_bind, hitems]
      rfl

end Surroundings

/-! ### A block -/

/-- Items that are expanded on their own, put together again. -/
def Expansion.ofItems (strict : Bool) (header : ImplHeader) (es : List ItemExpansion) : Expansion :=
  ⟨⟨header, es.map (·.result strict)⟩, es.flatMap (·.errors strict)⟩

theorem Expansion.ofItems_append (strict : Bool) (header : ImplHeader)
    (es₁ es₂ : List ItemExpansion) :
    ofItems strict header (es₁ ++ es₂) =
      ⟨⟨header, (ofItems strict header es₁).block.items ++ (ofItems strict header es₂).block.items⟩,
        (ofItems strict header es₁).errors ++ (ofItems strict header es₂).errors⟩ := by
  rw [ofItems, List.map_append, List.flatMap_append]
  rfl

/-- **A block is expanded as its items are, each on its own.** -/
theorem Surroundings.expandBlock_eq_map (s : Surroundings) (b : ImplBlock) :
    s.expandBlock b = (s.expandItems b.items).map (.ofItems s.context.strict b.header) := by
  obtain ⟨items, p, hrun, hadds⟩ := s.mapM_expandNext_run b.items Progress.start
  have hproblems : p.problems = problemsOf (s.expandItems b.items) := hadds.problems
  have hblock : s.expandBlock b = if p.problems.isEmpty then
      .ok { block := { b with items }, errors := p.errors } else .error p.problems := by
    rw [expandBlock, hrun]
  rw [hblock, hproblems]
  cases hes : s.expandItems b.items with
  | ok es =>
      obtain ⟨rfl, herrors⟩ := hadds.expanded es hes
      rw [herrors]
      rfl
  | error ps =>
      have hne : ps ≠ [] := by
        rintro rfl
        obtain ⟨es, h⟩ := s.expandItems_reasoned b.items (by rw [hes]; rfl)
        rw [hes] at h
        simp at h
      exact if_neg (fun hempty => hne (List.isEmpty_iff.mp hempty))

/-- A block that is expanded is expanded under surroundings, and so is each of its items. -/
theorem RepositorySettings.expand_eq_ok {settings : RepositorySettings} {b : ImplBlock}
    {e : Expansion} (h : settings.expand b = .ok e) :
    ∃ s es, settings.surroundings = .ok s ∧ s.expandItems b.items = .ok es ∧
      e = .ofItems s.context.strict b.header es := by
  obtain ⟨s, hs, hblock⟩ := exists_of_bind_eq_ok h
  rw [s.expandBlock_eq_map] at hblock
  obtain ⟨es, hes, rfl⟩ := map_eq_ok.mp hblock
  exact ⟨s, es, alone_eq_ok.mp hs, hes, rfl⟩

/-! ### What is reported -/

/-- The issues of an item that is expanded. -/
def ItemExpansion.issues : ItemExpansion → List Issue
  | method e => e.issues
  | other _ => []

theorem ItemExpansion.errors_eq (strict : Bool) (e : ItemExpansion) :
    e.errors strict = if strict then e.issues.map errorItem else [] := by
  cases e with
  | method e => rfl
  | other ts => cases strict <;> rfl

namespace Surroundings

variable {s : Surroundings}

/-- The issues of an item, expanded on its own. -/
def issuesOf (s : Surroundings) (item : ImplItem) : List Issue :=
  match s.expandItem item with
  | .ok e => e.issues
  | .error _ => []

theorem issuesOf_of_ok {item : ImplItem} {e : ItemExpansion} (h : s.expandItem item = .ok e) :
    s.issuesOf item = e.issues := by
  rw [issuesOf, h]

theorem map_issuesOf {items : List ImplItem} {es : List ItemExpansion}
    (h : s.expandItems items = .ok es) : items.map s.issuesOf = es.map (·.issues) := by
  have hmatch : s.issuesOf = (fun r => match r with
      | .ok e => ItemExpansion.issues e
      | .error _ => []) ∘ s.expandItem := rfl
  rw [hmatch, ← List.map_map, expandItems_eq_ok.mp h, List.map_map]
  rfl

/-- The errors behind a block are those of the issues of its items, in order. -/
theorem flatMap_errors {items : List ImplItem} {es : List ItemExpansion}
    (h : s.expandItems items = .ok es) (strict : Bool) :
    es.flatMap (·.errors strict) =
      if strict then (items.flatMap s.issuesOf).map errorItem else [] := by
  simp only [ItemExpansion.errors_eq]
  cases strict with
  | true =>
      rw [if_pos rfl, List.flatMap_def (l := items), map_issuesOf h, ← List.flatMap_def,
        List.map_flatMap]
      rfl
  | false => exact List.flatMap_eq_nil_iff.mpr (fun _ _ => rfl)

end Surroundings

end QueryMethods
