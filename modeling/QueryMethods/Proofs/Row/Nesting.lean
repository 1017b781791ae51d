/-
Columns behind a prefix and a point.

A row holds the columns of a smaller row if their names begin with a prefix and a point.
`Row.nested` takes them out and drops the prefix.  What becomes of a single name is said by
`undotted?`, which undoes `dotted` and nothing else, so a law about nested rows is a law about
`dotted`: nesting twice drops two prefixes one after the other, and that is dropping one prefix
with a point inside.

Looked up by its name, a column of the smaller row is the column of the dotted name.  This holds
where some column has exactly the dotted name.  Letters of the wrong case are passed over in the
name of a column but not in a prefix, so a column that is found in the larger row up to case
alone may be missing in the smaller one.
-/
import QueryMethods.Proofs.Row.ColumnMap

namespace QueryMethods

namespace Row

variable {r : Row} {start column name : String}

/-- The name of a column behind a prefix and a point. -/
def dotted (start column : String) : String := start ++ "." ++ column

/-- The name behind a prefix and a point, if it has them. -/
def undotted? (start name : String) : Option String :=
  if (start.toList ++ ['.']).isPrefixOf name.toList
  then some (String.ofList (name.toList.drop (start.toList ++ ['.']).length)) else none

theorem toList_dotted (start column : String) :
    (dotted start column).toList = (start.toList ++ ['.']) ++ column.toList := by
  rw [dotted, String.toList_append, String.toList_append]
  rfl

/-- Two prefixes in front of a name are one prefix with a point inside. -/
theorem dotted_dotted (p q column : String) :
    dotted p (dotted q column) = dotted (dotted p q) column := by
  refine String.toList_inj.mp ?_
  simp only [toList_dotted, List.append_assoc]

/-! ### Names -/

/-- Dropping a prefix undoes putting it in front. -/
theorem undotted?_eq_some_iff :
    undotted? start name = some column ↔ name = dotted start column := by
  unfold undotted?
  by_cases hprefix : (start.toList ++ ['.']).isPrefixOf name.toList = true
  · rw [if_pos hprefix]
    obtain ⟨rest, hrest⟩ := List.isPrefixOf_iff_prefix.mp hprefix
    rw [← @String.toList_inj name, toList_dotted, ← hrest, List.drop_left,
      Option.some.injEq, List.append_cancel_left_eq]
    constructor
    · rintro rfl
      exact (String.toList_ofList).symm
    · rintro rfl
      exact String.ofList_toList
  · rw [if_neg hprefix]
    refine iff_of_false (by simp) ?_
    rintro rfl
    have hstarts := List.prefix_append (start.toList ++ ['.']) column.toList
    rw [← toList_dotted] at hstarts
    exact hprefix (List.isPrefixOf_iff_prefix.mpr hstarts)

theorem undotted?_dotted (start column : String) :
    undotted? start (dotted start column) = some column :=
  undotted?_eq_some_iff.mpr rfl

/-- Dropping two prefixes one after the other drops them at once. -/
theorem undotted?_bind (p q name : String) :
    (undotted? p name).bind (undotted? q) = undotted? (dotted p q) name := by
  refine Option.ext (fun column => ?_)
  rw [Option.bind_eq_some_iff, undotted?_eq_some_iff, ← dotted_dotted]
  constructor
  · rintro ⟨rest, hname, hrest⟩
    rw [undotted?_eq_some_iff.mp hname, undotted?_eq_some_iff.mp hrest]
  · rintro rfl
    exact ⟨dotted q column, undotted?_dotted p _, undotted?_dotted q column⟩

/-! ### Cells -/

/-- What becomes of a column in a nested row. -/
def undottedCell? (start : String) (cell : String × Value) : Option (String × Value) :=
  (undotted? start cell.1).map (fun column => (column, cell.2))

theorem cells_nested (r : Row) (start : String) :
    (r.nested start).cells = r.cells.filterMap (undottedCell? start) := by
  unfold nested
  refine List.filterMap_congr (fun cell _ => ?_)
  obtain ⟨name, v⟩ := cell
  simp only [undottedCell?, undotted?]
  by_cases hprefix : (start.toList ++ ['.']).isPrefixOf name.toList = true
  · rw [if_pos hprefix, if_pos hprefix]
    rfl
  · rw [if_neg hprefix, if_neg hprefix]
    rfl

theorem undottedCell?_eq_some_iff {cell : String × Value} {v : Value} :
    undottedCell? start cell = some (column, v) ↔ cell = (dotted start column, v) := by
  obtain ⟨name, w⟩ := cell
  rw [undottedCell?, Option.map_eq_some_iff, Prod.mk.injEq]
  constructor
  · rintro ⟨rest, hname, heq⟩
    obtain ⟨rfl, rfl⟩ := Prod.mk.inj heq
    exact ⟨undotted?_eq_some_iff.mp hname, rfl⟩
  · rintro ⟨rfl, rfl⟩
    exact ⟨column, undotted?_dotted start column, rfl⟩

theorem mem_cells_nested {v : Value} :
    (column, v) ∈ (r.nested start).cells ↔ (dotted start column, v) ∈ r.cells := by
  rw [cells_nested, List.mem_filterMap]
  constructor
  · rintro ⟨cell, hcell, hname⟩
    rwa [undottedCell?_eq_some_iff.mp hname] at hcell
  · intro hcell
    exact ⟨_, hcell, undottedCell?_eq_some_iff.mpr rfl⟩

theorem mem_columns_nested :
    column ∈ (r.nested start).columns ↔ dotted start column ∈ r.columns := by
  constructor
  · intro h
    obtain ⟨⟨_, v⟩, hcell, rfl⟩ := List.mem_map.mp h
    exact List.mem_map.mpr ⟨_, mem_cells_nested.mp hcell, rfl⟩
  · intro h
    obtain ⟨⟨name, v⟩, hcell, hname⟩ := List.mem_map.mp h
    obtain rfl : name = dotted start column := hname
    exact List.mem_map.mpr ⟨_, mem_cells_nested.mpr hcell, rfl⟩

/-- Whether a name begins with a prefix and a point. -/
def startsDotted (start name : String) : Bool := (start ++ ".").toList.isPrefixOf name.toList

theorem startsDotted_eq (start name : String) :
    startsDotted start name = (undotted? start name).isSome := by
  have hpoint : (start ++ ".").toList = start.toList ++ ['.'] := String.toList_append
  rw [startsDotted, undotted?, hpoint]
  by_cases hprefix : (start.toList ++ ['.']).isPrefixOf name.toList = true
  · rw [if_pos hprefix, hprefix]
    rfl
  · rw [if_neg hprefix]
    exact Bool.eq_false_iff.mpr hprefix

/-- With its prefix put back, a nested row is the part of the row that begins with it. -/
theorem map_dotted_cells_nested (r : Row) (start : String) :
    (r.nested start).cells.map (fun cell => (dotted start cell.1, cell.2)) =
      r.cells.filter (fun cell => startsDotted start cell.1) := by
  rw [cells_nested, List.map_filterMap, ← List.filterMap_eq_filter]
  refine List.filterMap_congr (fun cell _ => ?_)
  obtain ⟨name, v⟩ := cell
  cases hname : undotted? start name with
  | none => simp [undottedCell?, startsDotted_eq, hname, Option.guard]
  | some column =>
      simp [undottedCell?, startsDotted_eq, Option.guard, undotted?_eq_some_iff.mp hname,
        undotted?_dotted]

/-- Nesting twice is nesting once, with a point between the prefixes. -/
theorem nested_nested (r : Row) (p q : String) :
    (r.nested p).nested q = r.nested (dotted p q) := by
  have hcells : ((r.nested p).nested q).cells = (r.nested (dotted p q)).cells := by
    rw [cells_nested, cells_nested, cells_nested, List.filterMap_filterMap]
    refine List.filterMap_congr (fun cell _ => ?_)
    unfold undottedCell?
    rw [← undotted?_bind]
    cases undotted? p cell.1 with
    | none => rfl
    | some rest => rfl
  exact congrArg Row.mk hcells

/-! ### Looking columns up -/

/-- The first column of a name in a nested row is the first column of the dotted name. -/
theorem firstNamed?_nested (r : Row) (start column : String) :
    (r.nested start).firstNamed? column = r.firstNamed? (dotted start column) := by
  unfold firstNamed?
  rw [cells_nested]
  induction r.cells with
  | nil => rfl
  | cons cell rest ih =>
      obtain ⟨name, v⟩ := cell
      rw [List.filterMap_cons, lookup_cons_pair]
      by_cases hname : dotted start column = name
      · have hcell : undottedCell? start (name, v) = some (column, v) :=
          undottedCell?_eq_some_iff.mpr (by rw [hname])
        rw [if_pos hname, hcell, lookup_cons_pair, if_pos rfl]
      · rw [if_neg hname, ← ih]
        cases hcell : undottedCell? start (name, v) with
        | none => rfl
        | some cell =>
            obtain ⟨other, w⟩ := cell
            have hother : name = dotted start other :=
              (Prod.mk.inj (undottedCell?_eq_some_iff.mp hcell)).1
            have hapart : column ≠ other := by
              rintro rfl
              exact hname hother.symm
            rw [lookup_cons_pair, if_neg hapart]

/-- Where a column has exactly the dotted name, it is what the name means in the nested row. -/
theorem get?_nested (h : dotted start column ∈ r.columns) :
    (r.nested start).get? column = r.get? (dotted start column) := by
  rw [get?_of_mem_columns (mem_columns_nested.mpr h), get?_of_mem_columns h, firstNamed?_nested]

/-! ### Any depth -/

/-- The row behind several prefixes, the outermost first. -/
def nestedAlong (r : Row) (starts : List String) : Row := starts.foldl nested r

/-- The name of a column behind several prefixes, the outermost first. -/
def dottedAlong (starts : List String) (column : String) : String := starts.foldr dotted column

/-- However deep it is nested, a column is the one of the dotted name. -/
theorem get?_nestedAlong {starts : List String} (h : dottedAlong starts column ∈ r.columns) :
    (r.nestedAlong starts).get? column = r.get? (dottedAlong starts column) := by
  induction starts generalizing r with
  | nil => rfl
  | cons start starts ih =>
      have hmem : dottedAlong starts column ∈ (r.nested start).columns := mem_columns_nested.mpr h
      show ((r.nested start).nestedAlong starts).get? column = _
      rw [ih hmem]
      exact get?_nested h

/-- However deep it is nested, a column is read as the one of the dotted name. -/
theorem getAs_nestedAlong {α : Type} (decode : Value → Except Failure α) {starts : List String}
    (h : dottedAlong starts column ∈ r.columns) :
    (r.nestedAlong starts).getAs decode column = r.getAs decode (dottedAlong starts column) := by
  obtain ⟨v, hv⟩ := exists_firstNamed? h
  have hget : r.get? (dottedAlong starts column) = some v := (get?_of_mem_columns h).trans hv
  rw [getAs_of_get?_eq_some decode hget,
    getAs_of_get?_eq_some decode ((get?_nestedAlong h).trans hget)]

end Row

end QueryMethods
