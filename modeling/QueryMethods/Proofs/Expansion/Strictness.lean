/-
What changes when issues are errors.

Nothing that plans or generates reads the flag: `withStrict` changes it in the surroundings of
a block, and every item expands there as it did before.  What the flag decides comes after
that, where an item is written down with its warnings or an error is put behind the block.  So
the two expansions of a block are made of the same bodies and of the same issues, and only show
the issues in different places.

A list of settings with the flag is read as the list without it, and only then is the flag
set; so all this is true of two lists that differ in its item.
-/
import QueryMethods.Proofs.Expansion.Frame
import QueryMethods.Proofs.Settings.StrictFlag

namespace QueryMethods

open Syntax (ImplBlock ImplItem Meta Method Token)

/-! ### Planning and generation do not read the flag -/

section

variable {σ ε ω : Type} (context : Context) (flag : Bool)

theorem planMethod_strict (signature : Signature) (query : Option NativeQuery) :
    planMethod { context with strict := flag } signature query =
      planMethod context signature query := by
  cases query with
  | none => rfl
  | some query => rfl

theorem existsPlan_strict (plan : Plan) (way : ExistsWay) :
    existsPlan { context with strict := flag } plan way = existsPlan context plan way := by
  cases way <;> rfl

theorem emitExists_strict (E : Emitter σ ε ω) (plan : Plan) (ways : List ExistsWay) :
    emitExists { context with strict := flag } E plan ways = emitExists context E plan ways := by
  induction ways with
  | nil => rfl
  | cons way ways ih => rw [emitExists, emitExists, existsPlan_strict, ih]

theorem emitPlanned_strict (E : Emitter σ ε ω) (signature : Signature)
    (operation : Option Operation) (plan : Plan) (issues : List Issue) :
    emitPlanned { context with strict := flag } E signature operation plan issues =
      emitPlanned context E signature operation plan issues := by
  rw [emitPlanned, emitPlanned, emitMethod, emitMethod, emitExists_strict]

/-- A method is generated in the same way, whatever its issues are. -/
theorem generateMethod_strict (E : Emitter σ ε ω) (signature : Signature)
    (query : Option NativeQuery) :
    generateMethod { context with strict := flag } E signature query =
      generateMethod context E signature query := by
  unfold generateMethod
  rw [planMethod_strict]
  simp only [emitPlanned_strict]

end

/-! ### Surroundings that differ in the flag -/

namespace Surroundings

/-- The same surroundings, but for whether issues are errors. -/
def withStrict (s : Surroundings) (flag : Bool) : Surroundings :=
  { s with context := { s.context with strict := flag } }

variable (s : Surroundings) (flag : Bool)

theorem generate_withStrict (c : Candidate) (query : Option QuerySettings) :
    (s.withStrict flag).generate c query = s.generate c query := by
  rw [generate, generate]
  show ((generateMethod { s.context with strict := flag } _ _ _).run ()).1 = _
  rw [generateMethod_strict]
  rfl

theorem expandBody_withStrict (m : Method) (query : Option QuerySettings)
    (renames : List (Option String)) :
    (s.withStrict flag).expandBody m query renames = s.expandBody m query renames := by
  simp only [expandBody, generate_withStrict]

theorem expandItem_withStrict : (s.withStrict flag).expandItem = s.expandItem := by
  funext item
  cases item with
  | other ts => rfl
  | method m => simp only [expandItem, expandMethod, expandBody_withStrict]

/-- **Items expand in the same way, whether issues are errors or not.** -/
theorem expandItems_withStrict (items : List ImplItem) :
    (s.withStrict flag).expandItems items = s.expandItems items := by
  rw [expandItems, expandItems, expandItem_withStrict]

end Surroundings

namespace RepositorySettings

variable (settings : RepositorySettings) (flag : Bool)

theorem context_strict :
    { settings with strict := flag }.context =
      settings.context.map (fun context => { context with strict := flag }) := by
  have htable : { settings with strict := flag }.tableName = settings.tableName := rfl
  have hfields : { settings with strict := flag }.fieldNames = settings.fieldNames := rfl
  have hkey : { settings with strict := flag }.withGivenKey = settings.withGivenKey := rfl
  have hentity : { settings with strict := flag }.entityOfFields = settings.entityOfFields := rfl
  rw [context, context, htable, hfields, hkey, hentity]
  cases settings.tableName with
  | none => rfl
  | some table =>
      cases settings.fieldNames with
      | error p => rfl
      | ok fields =>
          by_cases hempty : fields.isEmpty = true
          · simp only [bind, Except.bind, if_pos hempty]
            rfl
          · simp only [bind, Except.bind, if_neg hempty]
            cases settings.withGivenKey (settings.entityOfFields table fields) <;> rfl

theorem surroundings_strict :
    { settings with strict := flag }.surroundings =
      settings.surroundings.map (·.withStrict flag) := by
  have hexecutor : { settings with strict := flag }.executorName = settings.executorName := rfl
  have hfields : { settings with strict := flag }.fieldNames = settings.fieldNames := rfl
  rw [surroundings, surroundings, context_strict, hexecutor, hfields]
  cases settings.context with
  | error p => rfl
  | ok context =>
      cases settings.executorName with
      | error p => rfl
      | ok executor => cases settings.fieldNames <;> rfl

/-- What settings make of a block, with the flag applied to items that do not depend on it. -/
theorem expand_strict (b : ImplBlock) :
    { settings with strict := flag }.expand b =
      (alone settings.surroundings >>= fun s => s.expandItems b.items).map
        (.ofItems flag b.header) := by
  rw [expand, surroundings_strict]
  cases settings.surroundings with
  | error p => rfl
  | ok s =>
      show (s.withStrict flag).expandBlock b = (s.expandItems b.items).map _
      rw [Surroundings.expandBlock_eq_map, Surroundings.expandItems_withStrict]
      rfl

end RepositorySettings

/-! ### How issues are shown -/

/-- An item with warnings in front of the statements of its body, if it has one. -/
def withWarnings (issues : List Issue) : ImplItem → ImplItem
  | .method m =>
    .method { m with
      body := issues.map (fun issue => Spelling.deprecation (Spelling.note issue)) ++ m.body }
  | .other ts => .other ts

theorem ItemExpansion.result_false (e : ItemExpansion) :
    e.result false = withWarnings e.issues (e.result true) := by
  cases e with
  | method e =>
      show _ = ImplItem.method { e.result true with
        body := e.issues.map (fun issue => Spelling.deprecation (Spelling.note issue)) ++
          (e.result true).body }
      rw [← Spelling.warningStatement_eq]
      rfl
  | other ts => rfl

theorem Surroundings.map_result_false {s : Surroundings} {items : List ImplItem}
    {es : List ItemExpansion} (h : s.expandItems items = .ok es) :
    es.map (·.result false) =
      List.zipWith withWarnings (items.map s.issuesOf) (es.map (·.result true)) := by
  rw [map_issuesOf h, List.zipWith_map, List.zipWith_self]
  exact List.map_congr_left (fun e _ => e.result_false)

/-! ### Two lists of settings -/

/-- The expansion of a block under a list of settings. -/
def expandUnder (items : List SettingItem) (b : ImplBlock) : Except (List Problem) Expansion := do
  (← RepositorySettings.ofItems items).expand b

/-- The expansions of the items of a block under a list of settings, before any issue is shown. -/
def expandItemsUnder (items : List SettingItem) (b : ImplBlock) :
    Except (List Problem) (List ItemExpansion) := do
  let settings ← RepositorySettings.ofItems items
  (← alone settings.surroundings).expandItems b.items

theorem expandUnder_eq_map {items : List SettingItem} (hothers : ∀ item ∈ items, ¬ item.isStrict)
    (b : ImplBlock) :
    expandUnder items b = (expandItemsUnder items b).map (.ofItems false b.header) := by
  rw [expandUnder, expandItemsUnder]
  cases hsettings : RepositorySettings.ofItems items with
  | error ps => rfl
  | ok settings =>
      have hoff : settings = { settings with strict := false } := by
        rw [← RepositorySettings.strict_of_ofItems hothers hsettings]
      have hexpand := RepositorySettings.expand_strict settings false b
      rw [← hoff] at hexpand
      exact hexpand

theorem expandUnder_flag_eq_map {before after : List SettingItem} {given : Meta}
    (hname : given.path.text = "strict") (hvalue : ValueForm.boolean.ofMeta given = .ok true)
    (hothers : ∀ item ∈ before ++ after, ¬ item.isStrict) (b : ImplBlock) :
    expandUnder (before ++ .setting given :: after) b =
      (expandItemsUnder (before ++ after) b).map (.ofItems true b.header) := by
  rw [expandUnder, expandItemsUnder, RepositorySettings.ofItems_strict hname hvalue hothers]
  cases RepositorySettings.ofItems (before ++ after) with
  | error ps => rfl
  | ok settings => exact RepositorySettings.expand_strict settings true b

theorem expandItemsUnder_eq_ok {items : List SettingItem} {b : ImplBlock}
    {es : List ItemExpansion} (h : expandItemsUnder items b = .ok es) :
    ∃ settings s, RepositorySettings.ofItems items = .ok settings ∧
      settings.surroundings = .ok s ∧ s.expandItems b.items = .ok es := by
  obtain ⟨settings, hsettings, h⟩ := exists_of_bind_eq_ok h
  obtain ⟨s, hs, hes⟩ := exists_of_bind_eq_ok h
  exact ⟨settings, s, hsettings, alone_eq_ok.mp hs, hes⟩

theorem exists_map_eq_ok {ε α β γ : Type} {r : Except ε α} (f : α → β) (g : α → γ) :
    (∃ b, r.map f = .ok b) ↔ ∃ c, r.map g = .ok c := by
  cases r <;> simp [Except.map]

/-- **Whether issues are errors changes nothing but how they are shown.**

A list of settings with the flag expands a block exactly if the list without it does, with the
same problems if not.  The methods then have the same statements, behind a warning for each of
their issues where the flag is missing; and where it is there, the errors behind the block are
those of all issues in turn, each with the note of its warning. -/
theorem strict_changes_reporting_only {before after : List SettingItem} {given : Meta}
    (hname : given.path.text = "strict") (hvalue : ValueForm.boolean.ofMeta given = .ok true)
    (hothers : ∀ item ∈ before ++ after, ¬ item.isStrict) (b : ImplBlock) :
    problemsOf (expandUnder (before ++ .setting given :: after) b) =
      problemsOf (expandUnder (before ++ after) b) ∧
    ((∃ S, expandUnder (before ++ .setting given :: after) b = .ok S) ↔
      ∃ L, expandUnder (before ++ after) b = .ok L) ∧
    ∀ S L, expandUnder (before ++ .setting given :: after) b = .ok S →
      expandUnder (before ++ after) b = .ok L →
      ∃ settings s, RepositorySettings.ofItems (before ++ after) = .ok settings ∧
        settings.surroundings = .ok s ∧
        S.block.header = L.block.header ∧ S.block.items.length = b.items.length ∧
        L.block.items = List.zipWith withWarnings (b.items.map s.issuesOf) S.block.items ∧
        L.errors = [] ∧
        S.errors = (b.items.flatMap s.issuesOf).map (fun issue =>
          Spelling.compileError (Spelling.note issue)) := by
  rw [expandUnder_flag_eq_map hname hvalue hothers, expandUnder_eq_map hothers]
  refine ⟨?_, exists_map_eq_ok _ _, ?_⟩
  · rw [problemsOf_map, problemsOf_map]
  · intro S L hS hL
    obtain ⟨es, hes, rfl⟩ := map_eq_ok.mp hS
    rw [hes] at hL
    obtain rfl := Except.ok.inj hL
    obtain ⟨settings, s, hsettings, hs, hitems⟩ := expandItemsUnder_eq_ok hes
    have hlength : b.items.length = es.length := by
      rw [← List.length_map (f := s.issuesOf), Surroundings.map_issuesOf hitems, List.length_map]
    refine ⟨settings, s, hsettings, hs, rfl, ?_, Surroundings.map_result_false hitems, ?_, ?_⟩
    · rw [hlength]
      exact List.length_map _
    · exact Surroundings.flatMap_errors hitems false
    · rw [← Spelling.errorItem_eq]
      exact Surroundings.flatMap_errors hitems true

/-- A method that is not `async` and one that no convention applies to, with and without the
flag behind `native_only`. -/
theorem strict_changes_reporting_only_count_total :
    let word (name : String) : Meta := ⟨⟨false, [name]⟩, .nothing⟩
    let before := [SettingItem.setting (word "native_only")]
    let method (marks : List Token) (name : String) : ImplItem :=
      .method
        { attributes := [], marks := [], body := []
          header :=
            { marks, name, generics := ⟨[], []⟩
              inputs := [(.receiver [] [.word "self"], false)]
              result := some (.path (.mk [] "Result" (.angled []
                [.type (.path (.ofName "i64")) true, .type (.path (.ofName "SqlError")) false]))) } }
    let b : ImplBlock :=
      ⟨⟨[], [], ⟨[], []⟩, none, [.word "Users"]⟩,
        [method [] "count", method [.word "async"] "total"]⟩
    (word "strict").path.text = "strict" ∧ ValueForm.boolean.ofMeta (word "strict") = .ok true ∧
      (∀ item ∈ before ++ [], ¬ item.isStrict) ∧
      ∃ S L, expandUnder (before ++ [.setting (word "strict")]) b = .ok S ∧
        expandUnder (before ++ []) b = .ok L ∧
        S.errors =
          [Spelling.compileError "`count`: generated methods must be `async` [sqlgen::not_async]",
            Spelling.compileError ("`total`: method name does not match any supported query " ++
              "pattern [sqlgen::unsupported_method_pattern]")] ∧
        L.errors = [] ∧
        L.block.items = List.zipWith withWarnings [[.notAsync "count"], [.unsupportedName "total"]]
          S.block.items := by
  intro word before method b
  have hname : (word "strict").path.text = "strict" := rfl
  have hvalue : ValueForm.boolean.ofMeta (word "strict") = .ok true := rfl
  have hothers : ∀ item ∈ before ++ [], ¬ item.isStrict := by
    intro item hitem
    rw [List.append_nil] at hitem
    rw [List.mem_singleton.mp hitem]
    show ¬ (word "native_only").path.text = "strict"
    decide
  have hsome : (expandUnder (before ++ []) b).toOption.isSome = true := by decide +kernel
  obtain ⟨-, hiff, hshown⟩ := strict_changes_reporting_only hname hvalue hothers b
  obtain ⟨L, hL⟩ := exists_of_isSome_toOption hsome
  obtain ⟨S, hS⟩ := hiff.mpr ⟨L, hL⟩
  obtain ⟨settings, s, hsettings, hs, -, -, hitems, hnone, herrors⟩ := hshown S L hS hL
  have hissues : b.items.map s.issuesOf = [[.notAsync "count"], [.unsupportedName "total"]] := by
    obtain rfl := Except.ok.inj hsettings
    obtain rfl := Except.ok.inj hs
    decide +kernel
  rw [hissues] at hitems
  rw [List.flatMap_def, hissues] at herrors
  exact ⟨hname, hvalue, hothers, S, L, hS, hL, herrors, hnone, hitems⟩

end QueryMethods
