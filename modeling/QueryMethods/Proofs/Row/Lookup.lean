/-
Columns of a row by their names.

A column is found under its exact name before one whose name differs in the case of ASCII
letters, so in general two columns compete for one name, and the first of them wins.  Whatever
is found has the name up to case, though, and nothing is found only where no column has it.
Where no two columns of a row share a name up to case there is nothing to compete for, and a
name is found exactly where it stands: `position?_eq_some_iff` needs to know nothing of the
order in which the two searches are made.
-/
import QueryMethods.Row

namespace QueryMethods

/-! ### Names up to case -/

namespace Text

variable {a b c : String}

theorem sameIgnoringCase_iff : sameIgnoringCase a b = true ↔ lowerAscii a = lowerAscii b := by
  rw [sameIgnoringCase, beq_iff_eq]

theorem sameIgnoringCase_self (a : String) : sameIgnoringCase a a = true :=
  sameIgnoringCase_iff.mpr rfl

theorem sameIgnoringCase_symm (h : sameIgnoringCase a b = true) : sameIgnoringCase b a = true :=
  sameIgnoringCase_iff.mpr (sameIgnoringCase_iff.mp h).symm

theorem sameIgnoringCase_trans (hab : sameIgnoringCase a b = true)
    (hbc : sameIgnoringCase b c = true) : sameIgnoringCase a c = true :=
  sameIgnoringCase_iff.mpr ((sameIgnoringCase_iff.mp hab).trans (sameIgnoringCase_iff.mp hbc))

end Text

/-- No two names are the same up to the case of ASCII letters. -/
def DistinctNames (names : List String) : Prop :=
  names.Pairwise (fun a b => Text.sameIgnoringCase a b = false)

instance (names : List String) : Decidable (DistinctNames names) :=
  inferInstanceAs (Decidable (names.Pairwise _))

/-- Of distinct names, one up to case stands in one place. -/
theorem DistinctNames.eq_of_same {names : List String} (h : DistinctNames names) {i j : Nat}
    {a b : String} (hi : names[i]? = some a) (hj : names[j]? = some b)
    (hsame : Text.sameIgnoringCase a b = true) : i = j := by
  obtain ⟨hilt, rfl⟩ := List.getElem?_eq_some_iff.mp hi
  obtain ⟨hjlt, rfl⟩ := List.getElem?_eq_some_iff.mp hj
  rcases Nat.lt_trichotomy i j with hlt | heq | hgt
  · have hapart := List.pairwise_iff_getElem.mp h i j hilt hjlt hlt
    rw [hsame] at hapart
    exact absurd hapart (by simp)
  · exact heq
  · have hapart := List.pairwise_iff_getElem.mp h j i hjlt hilt hgt
    rw [Text.sameIgnoringCase_symm hsame] at hapart
    exact absurd hapart (by simp)

/-! ### Positions -/

namespace Row

variable {r : Row} {column : String} {i : Nat}

theorem columns_getElem? (r : Row) (i : Nat) : r.columns[i]? = (r.cells[i]?).map (·.1) :=
  List.getElem?_map

theorem columns_getElem?_eq_some {name : String} {v : Value}
    (h : r.cells[i]? = some (name, v)) : r.columns[i]? = some name := by
  rw [columns_getElem?, h]
  rfl

/-- Of distinct columns, one up to case stands in one place. -/
theorem eq_of_same (hr : DistinctNames r.columns) {j : Nat} {a b : String} {v w : Value}
    (hi : r.cells[i]? = some (a, v)) (hj : r.cells[j]? = some (b, w))
    (hsame : Text.sameIgnoringCase a b = true) : i = j :=
  hr.eq_of_same (columns_getElem?_eq_some hi) (columns_getElem?_eq_some hj) hsame

/-- What is found has the name up to case. -/
theorem exists_of_position?_eq_some (h : r.position? column = some i) :
    ∃ name v, r.cells[i]? = some (name, v) ∧ Text.sameIgnoringCase column name = true := by
  have hcell : ∀ test : String → Bool, r.columns.findIdx? test = some i →
      ∃ name v, r.cells[i]? = some (name, v) ∧ test name = true := by
    intro test hfind
    obtain ⟨hlt, htest, -⟩ := List.findIdx?_eq_some_iff_getElem.mp hfind
    have hlt' : i < r.cells.length := by simpa [columns] using hlt
    refine ⟨r.cells[i].1, r.cells[i].2, List.getElem?_eq_getElem hlt', ?_⟩
    simpa [columns] using htest
  rw [position?] at h
  split at h
  · rename_i found hexact
    rw [h] at hexact
    obtain ⟨name, v, hget, hname⟩ := hcell _ hexact
    rw [beq_iff_eq.mp hname] at hget
    exact ⟨column, v, hget, Text.sameIgnoringCase_self column⟩
  · exact hcell _ h

theorem same_of_position?_eq_some (h : r.position? column = some i) {name : String} {v : Value}
    (hcell : r.cells[i]? = some (name, v)) : Text.sameIgnoringCase column name = true := by
  obtain ⟨name', v', hcell', hsame⟩ := exists_of_position?_eq_some h
  rw [hcell, Option.some.injEq, Prod.mk.injEq] at hcell'
  rw [hcell'.1]
  exact hsame

/-- Nothing is found only where no column has the name. -/
theorem not_same_of_position?_eq_none (h : r.position? column = none) {name : String} {v : Value}
    (hcell : r.cells[i]? = some (name, v)) : Text.sameIgnoringCase column name = false := by
  rw [position?] at h
  split at h
  · simp at h
  · exact List.findIdx?_eq_none_iff.mp h name
      (List.mem_of_getElem? (columns_getElem?_eq_some hcell))

/-- A name that one column has is found there. -/
theorem position?_eq_some_of_unique {name : String} {v : Value}
    (hcell : r.cells[i]? = some (name, v)) (hsame : Text.sameIgnoringCase column name = true)
    (hunique : ∀ j name' v', r.cells[j]? = some (name', v') →
      Text.sameIgnoringCase column name' = true → j = i) : r.position? column = some i := by
  cases hposition : r.position? column with
  | none =>
      rw [not_same_of_position?_eq_none hposition hcell] at hsame
      exact absurd hsame (by simp)
  | some j =>
      obtain ⟨name', v', hcell', hsame'⟩ := exists_of_position?_eq_some hposition
      rw [hunique j name' v' hcell' hsame']

/-- **In a row of distinct columns a name is found exactly where it stands.** -/
theorem position?_eq_some_iff (hr : DistinctNames r.columns) :
    r.position? column = some i ↔
      ∃ name v, r.cells[i]? = some (name, v) ∧ Text.sameIgnoringCase column name = true := by
  refine ⟨exists_of_position?_eq_some, ?_⟩
  rintro ⟨name, v, hcell, hsame⟩
  refine position?_eq_some_of_unique hcell hsame ?_
  intro j name' v' hcell' hsame'
  exact eq_of_same hr hcell' hcell
    (Text.sameIgnoringCase_trans (Text.sameIgnoringCase_symm hsame') hsame)

/-! ### What a name means -/

/-- The column that a name means stands behind `before` and in front of `after`: it is the first
of exactly that name or, where no column has exactly that name, the first that has it up to
case. -/
structure Finds (r : Row) (column : String) (before : List (String × Value))
    (cell : String × Value) (after : List (String × Value)) : Prop where
  cells_eq : r.cells = before ++ cell :: after
  first : (cell.1 = column ∧ ∀ other ∈ before, other.1 ≠ column) ∨
    (column ∉ r.columns ∧ Text.sameIgnoringCase column cell.1 = true ∧
      ∀ other ∈ before, Text.sameIgnoringCase column other.1 = false)

/-- The first column that passes a test stands behind columns that do not. -/
theorem exists_split_of_findIdx?_eq_some {test : String → Bool}
    (h : r.columns.findIdx? test = some i) :
    ∃ before cell after, r.cells = before ++ cell :: after ∧ before.length = i ∧
      test cell.1 = true ∧ ∀ other ∈ before, test other.1 = false := by
  rw [columns, List.findIdx?_map] at h
  obtain ⟨hlt, htest, hbefore⟩ := List.findIdx?_eq_some_iff_getElem.mp h
  refine ⟨r.cells.take i, r.cells[i], r.cells.drop (i + 1), ?_, ?_, htest, ?_⟩
  · rw [List.getElem_cons_drop, List.take_append_drop]
  · exact List.length_take_of_le (Nat.le_of_lt hlt)
  · intro other hother
    obtain ⟨j, hj, rfl⟩ := List.mem_take_iff_getElem.mp hother
    exact Bool.eq_false_iff.mpr (hbefore j (Nat.lt_of_lt_of_le hj (Nat.min_le_left _ _)))

theorem exists_finds_of_position?_eq_some (h : r.position? column = some i) :
    ∃ before cell after, r.Finds column before cell after ∧ before.length = i := by
  rw [position?] at h
  split at h
  · rename_i found hexact
    rw [h] at hexact
    obtain ⟨before, cell, after, hcells, hlength, hname, hbefore⟩ :=
      exists_split_of_findIdx?_eq_some hexact
    refine ⟨before, cell, after, ⟨hcells, Or.inl ⟨beq_iff_eq.mp hname, ?_⟩⟩, hlength⟩
    exact fun other hother => beq_eq_false_iff_ne.mp (hbefore other hother)
  · rename_i hexact
    obtain ⟨before, cell, after, hcells, hlength, hname, hbefore⟩ :=
      exists_split_of_findIdx?_eq_some h
    refine ⟨before, cell, after, ⟨hcells, Or.inr ⟨?_, hname, hbefore⟩⟩, hlength⟩
    intro hmem
    exact absurd (List.findIdx?_eq_none_iff.mp hexact column hmem) (by simp)

/-- Nothing is found exactly where no column has the name. -/
theorem position?_eq_none_iff :
    r.position? column = none ↔ ∀ name ∈ r.columns, Text.sameIgnoringCase column name = false := by
  constructor
  · intro h name hname
    obtain ⟨⟨name, v⟩, hcell, rfl⟩ := List.mem_map.mp hname
    obtain ⟨i, hi⟩ := List.mem_iff_getElem?.mp hcell
    exact not_same_of_position?_eq_none h hi
  · intro h
    cases hposition : r.position? column with
    | none => rfl
    | some i =>
        obtain ⟨name, v, hcell, hsame⟩ := exists_of_position?_eq_some hposition
        rw [h name (List.mem_of_getElem? (columns_getElem?_eq_some hcell))] at hsame
        exact absurd hsame (by simp)

theorem get?_of_position?_eq_some {before after : List (String × Value)} {cell : String × Value}
    (h : r.position? column = some before.length) (hcells : r.cells = before ++ cell :: after) :
    r.get? column = some cell.2 := by
  rw [get?, h, hcells]
  simp

section

variable {α : Type} (decode : Value → Except Failure α)

theorem getAs_of_get?_eq_some {v : Value} (h : r.get? column = some v) :
    r.getAs decode column = decode v := by
  rw [getAs, get, h]
  rfl

theorem getAs_of_position?_eq_none (h : r.position? column = none) :
    r.getAs decode column = .error (.missingColumn column) := by
  rw [getAs, get, get?, h]
  rfl

end

end Row

end QueryMethods
