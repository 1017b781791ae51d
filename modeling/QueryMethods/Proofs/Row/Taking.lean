/-
Taking a column out of a row.

Taking removes the column that a name means and decodes the value that was removed; reading
decodes the value where it stands.  The two meet in the one column that is found, so taking
answers what reading the column would have answered, whether that is a value or a failure.  What
becomes of the row hangs on one thing only: whether some column has the name.  If none has, the
row is as it was.  If one has, that column leaves the row and every other one stays as and where
it was, and it leaves whether or not its value could be decoded, since it is taken out before
that.

Nothing here depends on what values are decoded to, or how.
-/
import QueryMethods.Proofs.Row.Lookup

namespace QueryMethods

namespace Row

variable {α : Type} {r : Row} {column : String}

/-- What is removed at a position is the value there, and everything around it stays. -/
theorem removeAt_length {before after : List (String × Value)} {cell : String × Value}
    (hcells : r.cells = before ++ cell :: after) :
    r.removeAt before.length = some (cell.2, ⟨before ++ after⟩) := by
  have hcell : r.cells[before.length]? = some cell := by simp [hcells]
  have hrest : r.cells.eraseIdx before.length = before ++ after := by
    rw [hcells, List.eraseIdx_append_of_length_le (Nat.le_refl _), Nat.sub_self]
    rfl
  rw [removeAt, hcell, hrest]
  rfl

theorem take_of_position?_eq_none (decode : Value → Except Failure α)
    (h : r.position? column = none) :
    r.take decode column = (.error (.missingColumn column), r) := by
  rw [take, h]
  rfl

/-- What is found leaves the row and is decoded. -/
theorem take_of_position?_eq_some {before after : List (String × Value)} {cell : String × Value}
    (decode : Value → Except Failure α) (h : r.position? column = some before.length)
    (hcells : r.cells = before ++ cell :: after) :
    r.take decode column = (decode cell.2, ⟨before ++ after⟩) := by
  rw [take, h, Option.bind_some, removeAt_length hcells]

/-- **Taking answers what reading does and removes just the column that the name means.**

A row without such a column is as it was, and it is left as it was only then: a column that is
there goes even if its value cannot be decoded. -/
theorem take_removes_found (decode : Value → Except Failure α) (r : Row) (column : String) :
    (r.take decode column).1 = r.getAs decode column ∧
    ((r.take decode column).2 = r ↔
      ∀ name ∈ r.columns, Text.sameIgnoringCase column name = false) ∧
    ((r.getAs decode column = .error (.missingColumn column) ∧ (r.take decode column).2 = r) ∨
      ∃ before cell after, r.Finds column before cell after ∧
        r.getAs decode column = decode cell.2 ∧
        (r.take decode column).2.cells = before ++ after) := by
  rw [← position?_eq_none_iff]
  cases hposition : r.position? column with
  | none =>
      rw [take_of_position?_eq_none decode hposition, getAs_of_position?_eq_none decode hposition]
      exact ⟨rfl, iff_of_true rfl rfl, Or.inl ⟨rfl, rfl⟩⟩
  | some i =>
      obtain ⟨before, cell, after, hfinds, rfl⟩ := exists_finds_of_position?_eq_some hposition
      have htake := take_of_position?_eq_some decode hposition hfinds.cells_eq
      have hread := getAs_of_get?_eq_some decode
        (get?_of_position?_eq_some hposition hfinds.cells_eq)
      have hshorter : (⟨before ++ after⟩ : Row) ≠ r := by
        intro heq
        have hlength := congrArg (fun row => row.cells.length) heq
        simp [hfinds.cells_eq] at hlength
      rw [htake, hread]
      exact ⟨rfl, iff_of_false hshorter (by simp),
        Or.inr ⟨before, cell, after, hfinds, rfl, rfl⟩⟩

/-- A text that is no number is gone once it has been asked for as one. -/
theorem take_removes_unreadable :
    let r : Row := ⟨[("id", .int 1), ("name", .text "ann")]⟩
    let number := (ValueType.integer .i64).decode
    r.getAs number "name" = .error (.decode "i64" "text") ∧
      r.take number "name" = (.error (.decode "i64" "text"), ⟨[("id", .int 1)]⟩) ∧
      (r.take number "name").2 ≠ r := by
  refine ⟨rfl, rfl, fun heq => ?_⟩
  exact absurd (congrArg (fun row => row.cells.length) heq) (by decide)

end Row

end QueryMethods
