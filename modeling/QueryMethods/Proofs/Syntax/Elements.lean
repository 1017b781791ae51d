/-
Types that hold elements.

The shape of a type and the type of its elements are found by two walks over the type.
Both look through references and brackets; the first also looks through the owners of one
value, such as `Box`, where the second stops.  They still agree on what matters here:
where the shape is a list or an option, the second walk finds a type.
-/
import QueryMethods.Syntax.Shape

namespace QueryMethods

/-- Whether a shape is made of elements that rows are read as. -/
def Shape.hasElements : Shape → Bool
  | sequence _ | optional _ => true
  | _ => false

namespace Syntax

theorem exists_firstType_of_argumentShapes {items : List Argument} (h : argumentShapes items ≠ []) :
    ∃ t, firstType items = some t := by
  induction items with
  | nil =>
      rw [argumentShapes] at h
      exact absurd rfl h
  | cons item rest ih =>
      cases item with
      | type t comma => exact ⟨t, rfl⟩
      | lifetime ts comma =>
          rw [argumentShapes] at h
          exact ih h
      | other ts comma =>
          rw [argumentShapes] at h
          exact ih h

/-- A path without type arguments is a scalar or a type of the user. -/
theorem hasElements_shapeOfPath_nil (spelling name : String) :
    (shapeOfPath spelling name []).hasElements = false := by
  rw [shapeOfPath]
  cases scalarKind? name with
  | none => rfl
  | some kind => rfl

theorem Path.exists_firstArgument {p : Path} (h : p.shape.hasElements = true) :
    ∃ element, p.firstArgument = some element := by
  obtain ⟨before, name, arguments⟩ := p
  rw [Path.shape] at h
  have hshapes : arguments.shapes ≠ [] := by
    intro hnil
    rw [hnil, hasElements_shapeOfPath_nil] at h
    exact absurd h Bool.false_ne_true
  cases arguments with
  | absent => exact absurd rfl hshapes
  | parenthesised ts => exact absurd rfl hshapes
  | angled mark items => exact exists_firstType_of_argumentShapes hshapes

/-- **A type whose shape has elements has a type of elements.** -/
theorem Ty.exists_firstArgument : ∀ {t : Ty}, t.shape.hasElements = true →
    ∃ element, t.firstArgument = some element
  | .reference _ inner, h => exists_firstArgument (t := inner) h
  | .parens inner, h => exists_firstArgument (t := inner) h
  | .slice element, _ => ⟨element, rfl⟩
  | .array element _, _ => ⟨element, rfl⟩
  | .path _, h => Path.exists_firstArgument h

end Syntax

end QueryMethods
