/-
What a mapping strategy decides.

The declared shape says how many rows are read and what one of them is an element of; a
strategy says only how a row becomes that element.  Two decisions are made for this, one from
the shape alone and one for renamed columns, and a third stands in where the shape alone is
unclear.  `Chooses` gathers the three, so that what holds of every resolution is proved once
for each of them, whatever the strategy was.

That the strategies agree is then a matter of the first two decisions: wherever the shape alone
decides anything, renaming decides the same number of rows and the same target.  Where it does
not, renaming still reads what the shape says and only the other strategies fall back to one
record, which is why agreement is asked of clear shapes only.
-/
import QueryMethods.Proofs.Planning.Scope

namespace QueryMethods

/-! ### Shapes that are clear by themselves -/

namespace Shape

/-- A shape that a row becomes by itself: a type of the user, a scalar, or a map with keys of
text. -/
inductive IsElement : Shape → Prop
  | named (path : String) : IsElement (.named path)
  | scalar (kind : ScalarKind) (name : String) : IsElement (.scalar kind name)
  | textMap (name : String) (value : Shape) : IsElement (.map (.scalar .text name) value)

/-- A shape that says nothing of its rows: a map, a type known by its text alone, and a list or
an option of what no row becomes. -/
inductive Unclear : Shape → Prop
  | map (key value : Shape) : Unclear (.map key value)
  | other (text : String) : Unclear (.other text)
  | sequence {element : Shape} : ¬element.IsElement → Unclear (.sequence element)
  | optional {element : Shape} : ¬element.IsElement → Unclear (.optional element)

theorem isElement_of_isTextMap {element : Shape} (h : element.isTextMap = true) :
    element.IsElement := by
  unfold isTextMap at h
  split at h
  · exact .textMap _ _
  · exact absurd h (by simp)

theorem elementRule_eq_none_iff {element : Shape} :
    element.elementRule = none ↔ ¬element.IsElement := by
  constructor
  · rintro hnone (path | ⟨kind, name⟩ | ⟨name, value⟩)
    · simp [elementRule] at hnone
    · simp [elementRule] at hnone
    · simp [elementRule, isTextMap] at hnone
  · intro hno
    unfold elementRule
    split
    · exact absurd (.named _) hno
    · exact absurd (.scalar _ _) hno
    · exact if_neg (fun htext => hno (isElement_of_isTextMap htext))

/-- The shape alone decides nothing exactly where it is unclear. -/
theorem choice_eq_none_iff {shape : Shape} : shape.choice = none ↔ shape.Unclear := by
  cases shape with
  | unit => exact iff_of_false (by simp [choice]) (by rintro ⟨⟩)
  | scalar kind name => exact iff_of_false (by simp [choice]) (by rintro ⟨⟩)
  | named path => exact iff_of_false (by simp [choice]) (by rintro ⟨⟩)
  | map key value => exact iff_of_true rfl (.map key value)
  | other text => exact iff_of_true rfl (.other text)
  | sequence element =>
      rw [choice, Option.map_eq_none_iff, elementRule_eq_none_iff]
      constructor
      · exact .sequence
      · intro h
        cases h with
        | sequence hno => exact hno
  | optional element =>
      rw [choice, Option.map_eq_none_iff, elementRule_eq_none_iff]
      constructor
      · exact .optional
      · intro h
        cases h with
        | optional hno => exact hno

instance (shape : Shape) : Decidable shape.Unclear := decidable_of_iff _ choice_eq_none_iff

/-- Wherever the shape alone decides, renaming reads as many rows of the same target. -/
theorem renamedChoice_of_choice {shape : Shape} {c : MappingChoice} (h : shape.choice = some c) :
    shape.renamedChoice.cardinality = c.cardinality ∧ shape.renamedChoice.target = c.target := by
  cases shape with
  | unit =>
      rw [← Option.some.inj h]
      exact ⟨rfl, rfl⟩
  | scalar kind name =>
      rw [← Option.some.inj h]
      exact ⟨rfl, rfl⟩
  | named path =>
      rw [← Option.some.inj h]
      exact ⟨rfl, rfl⟩
  | sequence element =>
      obtain ⟨row, -, rfl⟩ := Option.map_eq_some_iff.mp h
      exact ⟨rfl, rfl⟩
  | optional element =>
      obtain ⟨row, -, rfl⟩ := Option.map_eq_some_iff.mp h
      exact ⟨rfl, rfl⟩
  | map key value => simp [choice] at h
  | other text => simp [choice] at h

/-! ### Everything that is decided of a shape -/

/-- What can be decided of a shape: by itself, with columns renamed, or because it is unclear. -/
inductive Chooses (shape : Shape) : MappingChoice → Prop
  | clear {c : MappingChoice} : shape.choice = some c → Chooses shape c
  | renamed : Chooses shape shape.renamedChoice
  | unclear : shape.Unclear → Chooses shape ⟨.single, shape, .record⟩

theorem scalarCardinality_eq (kind : ScalarKind) :
    scalarCardinality kind = if kind = .bool then .boolean else .scalar := by
  cases kind <;> rfl

theorem scalarCardinality_ne_void (kind : ScalarKind) : scalarCardinality kind ≠ .void := by
  cases kind <;> simp [scalarCardinality]

/-- No row is read exactly where nothing is answered. -/
theorem Chooses.row_eq_nothing_iff {shape : Shape} {c : MappingChoice} (h : shape.Chooses c) :
    c.row = .nothing ↔ c.cardinality = .void := by
  cases h with
  | unclear _ => exact iff_of_false (by simp) (by simp)
  | renamed => cases shape <;> simp [renamedChoice, scalarCardinality_ne_void]
  | clear hchoice =>
      cases shape with
      | unit =>
          rw [← Option.some.inj hchoice]
          exact iff_of_true rfl rfl
      | scalar kind name =>
          rw [← Option.some.inj hchoice]
          exact iff_of_false (by simp) (scalarCardinality_ne_void kind)
      | named path =>
          rw [← Option.some.inj hchoice]
          exact iff_of_false (by simp) (by simp)
      | sequence element =>
          obtain ⟨row, hrow, rfl⟩ := Option.map_eq_some_iff.mp hchoice
          exact iff_of_false (elementRule_ne_nothing hrow) (by simp)
      | optional element =>
          obtain ⟨row, hrow, rfl⟩ := Option.map_eq_some_iff.mp hchoice
          exact iff_of_false (elementRule_ne_nothing hrow) (by simp)
      | map key value => simp [choice] at hchoice
      | other text => simp [choice] at hchoice

/-- Of a scalar one thing is decided only. -/
theorem Chooses.eq_of_scalar {kind : ScalarKind} {name : String} {c : MappingChoice}
    (h : (Shape.scalar kind name).Chooses c) :
    c = ⟨scalarCardinality kind, .scalar kind name, .scalar kind⟩ := by
  cases h with
  | clear hchoice => exact (Option.some.inj hchoice).symm
  | renamed => rfl
  | unclear hunclear => exact nomatch hunclear

end Shape

/-! ### Resolutions -/

/-- The resolution that is made of a choice. -/
def MappingChoice.resolution (c : MappingChoice) (strategy : MappingStrategy)
    (columns : List (String × String)) (via : Option Shape) (issues : List Issue) : Resolution :=
  ⟨⟨strategy, c.target, columns, c.row, via.filter (fun _ => c.row.readsRecords)⟩,
    c.cardinality, issues⟩

/-- A resolution with another strategy written into it. -/
def Resolution.withStrategy (r : Resolution) (strategy : MappingStrategy) : Resolution :=
  { r with mapping := { r.mapping with strategy } }

section

variable {method : String} {shape : Shape} {strategy : MappingStrategy}
  {columns : List (String × String)} {via : Option Shape}

theorem resolveMapping_of_renames (h : strategy.renames = true) :
    resolveMapping method shape strategy columns via =
      shape.renamedChoice.resolution strategy columns via [] := by
  rw [resolveMapping, if_pos h]
  rfl

theorem resolveMapping_of_choice {c : MappingChoice} (h : strategy.renames = false)
    (hchoice : shape.choice = some c) :
    resolveMapping method shape strategy columns via =
      c.resolution strategy columns via [] := by
  rw [resolveMapping, h, hchoice]
  rfl

theorem resolveMapping_of_unclear (h : strategy.renames = false) (hunclear : shape.Unclear) :
    resolveMapping method shape strategy columns via =
      MappingChoice.resolution ⟨.single, shape, .record⟩ strategy columns via
        [.ambiguousMapping method shape.spelling] := by
  rw [resolveMapping, h, Shape.choice_eq_none_iff.mpr hunclear]
  rfl

/-- Every resolution is made of something that is decided of the shape. -/
theorem exists_chooses (method : String) (shape : Shape) (strategy : MappingStrategy)
    (columns : List (String × String)) (via : Option Shape) :
    ∃ c issues, shape.Chooses c ∧
      resolveMapping method shape strategy columns via =
        c.resolution strategy columns via issues := by
  cases hrenames : strategy.renames with
  | true => exact ⟨_, _, .renamed, resolveMapping_of_renames hrenames⟩
  | false =>
      cases hchoice : shape.choice with
      | some c => exact ⟨c, _, .clear hchoice, resolveMapping_of_choice hrenames hchoice⟩
      | none =>
          have hunclear := Shape.choice_eq_none_iff.mp hchoice
          exact ⟨_, _, .unclear hunclear, resolveMapping_of_unclear hrenames hunclear⟩

/-- Strategies that both rename, or both do not, resolve alike. -/
theorem resolveMapping_withStrategy {other : MappingStrategy}
    (h : strategy.renames = other.renames) :
    (resolveMapping method shape strategy columns via).withStrategy other =
      resolveMapping method shape other columns via := by
  rw [resolveMapping, resolveMapping, h]
  rfl

/-- On a clear shape a strategy that renames reads as many rows of the same target as one that
does not. -/
theorem resolveMapping_renames_of_clear {other : MappingStrategy} (h : strategy.renames = true)
    (hother : other.renames = false) (hclear : ¬shape.Unclear) :
    let resolved := fun strategy => resolveMapping method shape strategy columns via
    (resolved strategy).cardinality = (resolved other).cardinality ∧
      (resolved strategy).mapping.target = (resolved other).mapping.target := by
  obtain ⟨c, hchoice⟩ := Option.ne_none_iff_exists'.mp (mt Shape.choice_eq_none_iff.mp hclear)
  simp only [resolveMapping_of_renames h, resolveMapping_of_choice hother hchoice]
  exact Shape.renamedChoice_of_choice hchoice

theorem renames_iff_mem :
    strategy.renames = true ↔ strategy ∈ [.manual, .beanProperty, .nested] := by
  cases strategy <;> simp [MappingStrategy.renames]

/-- Renaming reports nothing. -/
theorem issues_of_renames (h : strategy.renames = true) :
    (resolveMapping method shape strategy columns via).issues = [] := by
  rw [resolveMapping_of_renames h]
  rfl

/-- Without renaming there is one thing to report, and it is that the shape is unclear. -/
theorem issues_of_not_renames (h : strategy.renames = false) :
    (resolveMapping method shape strategy columns via).issues =
      if shape.Unclear then [.ambiguousMapping method shape.spelling] else [] := by
  by_cases hunclear : shape.Unclear
  · rw [resolveMapping_of_unclear h hunclear, if_pos hunclear]
    rfl
  · obtain ⟨c, hchoice⟩ :=
      Option.ne_none_iff_exists'.mp (mt Shape.choice_eq_none_iff.mp hunclear)
    rw [resolveMapping_of_choice h hchoice, if_neg hunclear]
    rfl

theorem readsRecords_iff {row : RowRule} :
    row.readsRecords = true ↔ row = .record ∨ row = .renamed := by
  cases row <;> simp [RowRule.readsRecords]

/-- A type to be read first is kept where records are read and dropped elsewhere. -/
theorem via_resolution (c : MappingChoice) (issues : List Issue) :
    (c.resolution strategy columns via issues).mapping.via =
      if c.row = .record ∨ c.row = .renamed then via else none := by
  simp only [← readsRecords_iff, MappingChoice.resolution]
  cases via with
  | none => simp
  | some row => cases c.row.readsRecords <;> rfl

end

/-- **A strategy changes how rows are read, and nothing else.**

Only an unclear shape is reported, and a strategy that renames columns reports not even that.
On every other shape all strategies read as many rows of the same target.  Whatever the
strategy, rows go unread exactly where nothing is answered, a scalar is one value of its kind,
and a type to be read first is kept exactly where records are read. -/
theorem strategies_differ_in_rows (method : String) (shape : Shape)
    (columns : List (String × String)) (via : Option Shape) :
    let resolved := fun strategy => resolveMapping method shape strategy columns via
    ((resolved .auto).issues = [.ambiguousMapping method shape.spelling] ↔ shape.Unclear) ∧
    ((resolved .auto).issues = [] ↔ ¬shape.Unclear) ∧
    (resolved .auto).withStrategy .constructor = resolved .constructor ∧
    (∀ strategy ∈ [.manual, .beanProperty, .nested], (resolved strategy).issues = [] ∧
      (¬shape.Unclear → (resolved strategy).cardinality = (resolved .auto).cardinality ∧
        (resolved strategy).mapping.target = (resolved .auto).mapping.target)) ∧
    ∀ strategy,
      ((resolved strategy).mapping.row = .nothing ↔ (resolved strategy).cardinality = .void) ∧
      (∀ kind name, shape = .scalar kind name →
        (resolved strategy).cardinality = (if kind = .bool then .boolean else .scalar) ∧
        (resolved strategy).mapping.row = .scalar kind) ∧
      (resolved strategy).mapping.via =
        if (resolved strategy).mapping.row = .record ∨ (resolved strategy).mapping.row = .renamed
        then via else none := by
  intro resolved
  have hauto : (resolved .auto).issues =
      if shape.Unclear then [.ambiguousMapping method shape.spelling] else [] :=
    issues_of_not_renames rfl
  refine ⟨?_, ?_, resolveMapping_withStrategy rfl, ?_, ?_⟩
  · rw [hauto]
    by_cases hunclear : shape.Unclear <;> simp [hunclear]
  · rw [hauto]
    by_cases hunclear : shape.Unclear <;> simp [hunclear]
  · intro strategy hstrategy
    have hrenames := renames_iff_mem.mpr hstrategy
    exact ⟨issues_of_renames hrenames, resolveMapping_renames_of_clear hrenames rfl⟩
  · intro strategy
    obtain ⟨c, issues, hchooses, hresolved⟩ := exists_chooses method shape strategy columns via
    have hresolved : resolved strategy = _ := hresolved
    rw [hresolved]
    refine ⟨hchooses.row_eq_nothing_iff, ?_, via_resolution c issues⟩
    rintro kind name rfl
    rw [hchooses.eq_of_scalar, ← Shape.scalarCardinality_eq]
    exact ⟨rfl, rfl⟩

/-- Many rows of maps stay many rows of maps where columns are renamed, but they are read as
records, and through another type if one is given. -/
theorem strategies_differ_in_rows_of_maps :
    let shape : Shape := .sequence (.map (.scalar .text "String") (.named "SqlValue"))
    let resolved := fun strategy =>
      resolveMapping "findAll" shape strategy [("user_name", "name")] (some (.named "UserRow"))
    ¬shape.Unclear ∧ (resolved .auto).issues = [] ∧
      (resolved .nested).cardinality = (resolved .auto).cardinality ∧
      (resolved .auto).mapping.row = .columns ∧ (resolved .auto).mapping.via = none ∧
      (resolved .nested).mapping.row = .renamed ∧
      (resolved .nested).mapping.via = some (.named "UserRow") := by
  intro shape resolved
  have hclear : ¬shape.Unclear := by decide
  obtain ⟨-, hissues, -, hrenamed, hevery⟩ :=
    strategies_differ_in_rows "findAll" shape [("user_name", "name")] (some (.named "UserRow"))
  obtain ⟨-, hsame⟩ := hrenamed .nested (by decide)
  exact ⟨hclear, hissues.mpr hclear, (hsame hclear).1, rfl, (hevery .auto).2.2, rfl,
    (hevery .nested).2.2⟩

end QueryMethods
