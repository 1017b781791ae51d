/-
The type that rows are read as.

How many rows a method reads, and the shape of one element, is planned from the shape of
the declared type.  The type that generated code reads a row as is found by a second walk
over the same type.  Both walks look through references and brackets, and both stop at a
list or an option; but the first also looks through the owners of one value, such as
`Box`, where the second takes what is owned for the element.

So the two agree where no owner stands around the list or the option, and only there:
behind an owner, each row is read as the whole list.
-/
import QueryMethods.Code.Emitter
import QueryMethods.Proofs.Syntax.Elements

namespace QueryMethods

/-- The shape of one element of a list or an option. -/
def Shape.element? : Shape → Option Shape
  | sequence element | optional element => some element
  | _ => none

namespace Shape

theorem hasElements_of_element? {shape element : Shape} (h : shape.element? = some element) :
    shape.hasElements = true := by
  cases shape <;> simp [element?, hasElements] at h ⊢

theorem element?_eq_some_iff {shape element : Shape} :
    shape.element? = some element ↔ shape = .sequence element ∨ shape = .optional element := by
  cases shape <;> simp [element?]

/-- A shape is no element of its own. -/
theorem ne_of_element?_eq_some {shape element : Shape} (h : shape.element? = some element) :
    shape ≠ element := by
  intro heq
  have hsize := congrArg sizeOf heq
  rcases element?_eq_some_iff.mp h with rfl | rfl
  · simp at hsize
  · simp at hsize

/-- What is planned for a list or an option is its element, unless the mapping is unclear. -/
theorem target_resolveMapping {shape element : Shape} (h : shape.element? = some element)
    {method : String} {strategy : MappingStrategy} {columns : List (String × String)}
    {via : Option Shape}
    (hissues : (resolveMapping method shape strategy columns via).issues = []) :
    (resolveMapping method shape strategy columns via).mapping.target = element ∧
      ((resolveMapping method shape strategy columns via).cardinality = .list ∨
        (resolveMapping method shape strategy columns via).cardinality = .optional) := by
  rw [resolveMapping] at hissues ⊢
  by_cases hrenames : strategy.renames = true
  · simp only [if_pos hrenames]
    rcases element?_eq_some_iff.mp h with rfl | rfl
    · exact ⟨rfl, Or.inl rfl⟩
    · exact ⟨rfl, Or.inr rfl⟩
  · simp only [if_neg hrenames] at hissues ⊢
    cases hchoice : shape.choice with
    | none => simp [hchoice] at hissues
    | some choice =>
        rcases element?_eq_some_iff.mp h with rfl | rfl
        · obtain ⟨row, -, rfl⟩ := Option.map_eq_some_iff.mp hchoice
          exact ⟨rfl, Or.inl rfl⟩
        · obtain ⟨row, -, rfl⟩ := Option.map_eq_some_iff.mp hchoice
          exact ⟨rfl, Or.inr rfl⟩

end Shape

namespace Syntax

/-- Whether a type, behind references and brackets, is an owner of one value. -/
def Ty.isOwner (t : Ty) : Bool :=
  match t.bare with
  | .path p => decide (p.name ∈ ownerNames)
  | _ => false

/-! ### What the second walk finds -/

theorem firstType_of_argumentShapes {items : List Argument} {first : Shape} {rest : List Shape}
    (h : argumentShapes items = first :: rest) :
    ∃ e, firstType items = some e ∧ e.shape = first := by
  induction items with
  | nil => simp [argumentShapes] at h
  | cons item items ih =>
      cases item with
      | type t comma =>
          rw [argumentShapes] at h
          exact ⟨t, rfl, (List.cons.inj h).1⟩
      | lifetime ts comma =>
          rw [argumentShapes] at h
          exact ih h
      | other ts comma =>
          rw [argumentShapes] at h
          exact ih h

theorem Path.firstArgument_of_shapes (before : List Token) (name : String)
    {arguments : Arguments} {first : Shape} {rest : List Shape}
    (h : arguments.shapes = first :: rest) :
    ∃ e, (Path.mk before name arguments).firstArgument = some e ∧ e.shape = first := by
  cases arguments with
  | absent => simp [Arguments.shapes] at h
  | parenthesised ts => simp [Arguments.shapes] at h
  | angled mark items => exact firstType_of_argumentShapes h

/-- No container is an owner. -/
theorem not_mem_ownerNames {name : String} (h : name ∈ sequenceNames ∨ name = "Option") :
    name ∉ ownerNames := by
  intro howner
  simp only [sequenceNames, ownerNames, List.mem_cons, List.not_mem_nil, or_false] at h howner
  rcases howner with rfl | rfl | rfl | rfl <;> simp at h

/-- A path that holds elements is a list or an option of its first argument, or the owner of
something that holds them. -/
theorem shapeOfPath_element?_cases {spelling name : String} {arguments : List Shape}
    {element : Shape} (h : (shapeOfPath spelling name arguments).element? = some element) :
    ∃ first rest, arguments = first :: rest ∧
      (name ∉ ownerNames ∧ first = element ∨
        name ∈ ownerNames ∧ first = shapeOfPath spelling name arguments) := by
  cases arguments with
  | nil =>
      have helements := Shape.hasElements_of_element? h
      rw [hasElements_shapeOfPath_nil] at helements
      exact absurd helements Bool.false_ne_true
  | cons first rest =>
      refine ⟨first, rest, rfl, ?_⟩
      by_cases hsequence : name ∈ sequenceNames
      · simp only [shapeOfPath, if_pos hsequence] at h
        exact Or.inl ⟨not_mem_ownerNames (Or.inl hsequence), Option.some.inj h⟩
      · simp only [shapeOfPath, if_neg hsequence] at h ⊢
        cases rest with
        | cons second others =>
            simp only at h
            split at h <;> simp [Shape.element?] at h
        | nil =>
            simp only at h ⊢
            by_cases hoption : name = "Option"
            · rw [if_pos hoption] at h
              exact Or.inl ⟨not_mem_ownerNames (Or.inr hoption), Option.some.inj h⟩
            · rw [if_neg hoption] at h ⊢
              by_cases howner : name ∈ ownerNames
              · exact Or.inr ⟨howner, (if_pos howner).symm⟩
              · rw [if_neg howner] at h
                simp [Shape.element?] at h

/-- The second walk finds the element, or all that an owner owns. -/
theorem Ty.shape_firstArgument : ∀ {t : Ty} {element : Shape}, t.shape.element? = some element →
    ∃ e, t.firstArgument = some e ∧ e.shape = if t.isOwner then t.shape else element
  | .reference _ inner, _, h => shape_firstArgument (t := inner) h
  | .parens inner, _, h => shape_firstArgument (t := inner) h
  | .slice inner, _, h => ⟨inner, rfl, Option.some.inj h⟩
  | .array inner _, _, h => ⟨inner, rfl, Option.some.inj h⟩
  | .path (.mk before name arguments), element, h => by
      rw [Ty.shape, Path.shape] at h
      obtain ⟨first, rest, hshapes, hcases⟩ := shapeOfPath_element?_cases h
      obtain ⟨e, he, hfirst⟩ := Path.firstArgument_of_shapes before name hshapes
      refine ⟨e, he, hfirst.trans ?_⟩
      have howner : (Ty.path (.mk before name arguments)).isOwner = decide (name ∈ ownerNames) :=
        rfl
      rw [howner]
      rcases hcases with ⟨hnot, hfirst⟩ | ⟨hmem, hfirst⟩
      · rw [if_neg (by simpa using hnot), hfirst]
      · rw [if_pos (by simpa using hmem), hfirst, Ty.shape, Path.shape]

/-! ### Against what was planned -/

/-- **Rows are read as the planned elements exactly where no owner stands around them.**  A
type of rows is always found, and it is what the emitter reads each row as; behind an owner it
is the whole list or option. -/
theorem Ty.rowType_planned_iff {t : Ty} {element : Shape}
    (ht : t.shape = .sequence element ∨ t.shape = .optional element) (method : String)
    (strategy : MappingStrategy) (columns : List (String × String)) (via : Option Shape) :
    ∃ e, t.firstArgument = some e ∧
      (e.shape = element ↔ t.isOwner = false) ∧
      (t.isOwner = true → e.shape = t.shape) ∧
      ((resolveMapping method t.shape strategy columns via).issues = [] →
        (resolveMapping method t.shape strategy columns via).mapping.target = element ∧
        ∀ s : CodeSource, s.candidate.okType = t →
          s.element (resolveMapping method t.shape strategy columns via).cardinality = .ok e) := by
  have helement : t.shape.element? = some element := Shape.element?_eq_some_iff.mpr ht
  obtain ⟨e, he, hshape⟩ := shape_firstArgument helement
  refine ⟨e, he, ?_, ?_, ?_⟩
  · cases howner : t.isOwner with
    | false => simp [hshape, howner]
    | true => simp [hshape, howner, Shape.ne_of_element?_eq_some helement]
  · intro howner
    rw [hshape, if_pos howner]
  · intro hissues
    obtain ⟨htarget, hcardinality⟩ := Shape.target_resolveMapping helement hissues
    refine ⟨htarget, ?_⟩
    intro s hs
    rcases hcardinality with hlist | hoptional
    · rw [hlist, CodeSource.element, hs]
      simp only [he]
    · rw [hoptional, CodeSource.element, hs]
      simp only [he]

/-- Behind a reference and brackets the element of a list is found, also one that is owned. -/
theorem Ty.rowType_planned_iff_reference :
    let user : Ty := .path (.mk [] "Box" (.angled [] [.type (.path (.ofName "User")) false]))
    let t : Ty := .reference [.sign '&' false]
      (.parens (.path (.mk [] "Vec" (.angled [] [.type user false]))))
    t.shape = .sequence (.named "User") ∧
      ∃ e, t.firstArgument = some e ∧ e.shape = .named "User" ∧
        (resolveMapping "findAll" t.shape .auto [] none).mapping.target = e.shape := by
  intro user t
  have hshape : t.shape = .sequence (.named "User") := by decide +kernel
  obtain ⟨e, he, hiff, -, hplanned⟩ :=
    rowType_planned_iff (Or.inl hshape) "findAll" .auto [] none
  have heq : e.shape = .named "User" := hiff.mpr rfl
  obtain ⟨htarget, -⟩ := hplanned (by rw [hshape]; rfl)
  exact ⟨hshape, e, he, heq, htarget.trans heq.symm⟩

/-- Behind an owner the two walks part: what is planned is a list of records, and what each
row is read as is the list. -/
theorem Ty.rowType_of_owned_list :
    let t : Ty := .path (.mk [] "Box" (.angled [] [.type (.slice (.path (.ofName "User"))) false]))
    t.shape = .sequence (.named "User") ∧
      (resolveMapping "findAll" t.shape .auto [] none).issues = [] ∧
      ∃ e, t.firstArgument = some e ∧ e.shape ≠ .named "User" ∧
        e.shape ≠ (resolveMapping "findAll" t.shape .auto [] none).mapping.target := by
  intro t
  have hshape : t.shape = .sequence (.named "User") := by decide +kernel
  refine ⟨hshape, by rw [hshape]; rfl, _, rfl, ?_, ?_⟩
  · decide +kernel
  · decide +kernel

end Syntax

end QueryMethods
