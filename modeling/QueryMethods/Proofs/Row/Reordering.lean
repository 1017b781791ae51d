/-
The order of columns.

Looking a column up tries its exact name before its name up to case and takes the first column
that fits, so in general the order of the columns decides what a name means.  Where no two
columns share a name up to case there is at most one column to find, and `get?_eq_some_iff` says
which without a word on positions: whatever is read from such a row is read from its set of
columns.

Distinct names stay distinct when a prefix is dropped, since the prefix was the same for all of
them, and when a column is taken.  A map of columns is filled one column after the other; two
columns with different names can change places there because neither overwrites what the other
has written.
-/
import Mathlib.Data.List.Nodup
import Mathlib.Data.List.Perm.Basic
import QueryMethods.Proofs.Row.Nesting
import QueryMethods.Proofs.Row.Taking

namespace QueryMethods

/-! ### Distinct names -/

namespace Text

theorem lowerAscii_append (a b : String) : lowerAscii (a ++ b) = lowerAscii a ++ lowerAscii b := by
  unfold lowerAscii
  rw [String.toList_append, List.map_append, String.ofList_append]

/-- Names that are the same up to case stay so behind one text. -/
theorem sameIgnoringCase_append (start : String) {a b : String} (h : sameIgnoringCase a b = true) :
    sameIgnoringCase (start ++ a) (start ++ b) = true := by
  rw [sameIgnoringCase_iff, lowerAscii_append, lowerAscii_append, sameIgnoringCase_iff.mp h]

end Text

namespace DistinctNames

variable {names names' : List String}

theorem perm (hn : DistinctNames names) (h : names.Perm names') : DistinctNames names' := by
  refine List.Perm.pairwise h hn ?_
  intro a b hab
  rw [Bool.eq_false_iff] at hab ⊢
  intro hba
  exact hab (Text.sameIgnoringCase_symm hba)

theorem nodup (hn : DistinctNames names) : names.Nodup := by
  refine List.Pairwise.imp ?_ hn
  rintro a b hab rfl
  rw [Text.sameIgnoringCase_self] at hab
  exact absurd hab (by simp)

end DistinctNames

namespace Row

variable {α : Type} {decode : Value → Except Failure α} {r r' : Row} {column start : String}

theorem columns_perm (h : r.cells.Perm r'.cells) : r.columns.Perm r'.columns :=
  h.map Prod.fst

/-- Of distinct columns, one up to case is one column. -/
theorem eq_of_mem_of_same (hr : DistinctNames r.columns) {a b : String × Value}
    (ha : a ∈ r.cells) (hb : b ∈ r.cells) (hsame : Text.sameIgnoringCase a.1 b.1 = true) :
    a = b := by
  obtain ⟨i, hi⟩ := List.mem_iff_getElem?.mp ha
  obtain ⟨j, hj⟩ := List.mem_iff_getElem?.mp hb
  obtain rfl : i = j := eq_of_same hr hi hj hsame
  exact Option.some.inj (hi.symm.trans hj)

/-- Distinct columns are distinct without a prefix that they share. -/
theorem distinctNames_nested (hr : DistinctNames r.columns) (start : String) :
    DistinctNames (r.nested start).columns := by
  unfold DistinctNames columns at hr ⊢
  rw [List.pairwise_map] at hr ⊢
  rw [cells_nested, List.pairwise_filterMap]
  refine List.Pairwise.imp ?_ hr
  rintro a b hab ⟨name, v⟩ ha ⟨name', w⟩ hb
  rw [undottedCell?_eq_some_iff.mp ha, undottedCell?_eq_some_iff.mp hb] at hab
  rw [Bool.eq_false_iff] at hab ⊢
  intro hsame
  exact hab (Text.sameIgnoringCase_append _ hsame)

/-! ### Looking columns up -/

/-- **In a row of distinct columns a name means the one column that has it up to case.** -/
theorem get?_eq_some_iff (hr : DistinctNames r.columns) {v : Value} :
    r.get? column = some v ↔
      ∃ name, (name, v) ∈ r.cells ∧ Text.sameIgnoringCase column name = true := by
  cases hposition : r.position? column with
  | none =>
      have hnone : r.get? column = none := by rw [get?, hposition]
      rw [hnone]
      refine iff_of_false (by simp) ?_
      rintro ⟨name, hcell, hsame⟩
      rw [position?_eq_none_iff.mp hposition name (List.mem_map_of_mem hcell)] at hsame
      exact absurd hsame (by simp)
  | some i =>
      obtain ⟨name, w, hcell, hsame⟩ := exists_of_position?_eq_some hposition
      have hget : r.get? column = some w := by
        rw [get?, hposition]
        simp only [hcell, Option.map_some]
      have hmem := List.mem_of_getElem? hcell
      rw [hget, Option.some.injEq]
      constructor
      · rintro rfl
        exact ⟨name, hmem, hsame⟩
      · rintro ⟨name', hmem', hsame'⟩
        have hboth := Text.sameIgnoringCase_trans (Text.sameIgnoringCase_symm hsame) hsame'
        exact congrArg Prod.snd (eq_of_mem_of_same hr hmem hmem' hboth)

theorem get?_perm (hr : DistinctNames r.columns) (h : r.cells.Perm r'.cells) :
    r.get? column = r'.get? column := by
  refine Option.ext (fun v => ?_)
  rw [get?_eq_some_iff hr, get?_eq_some_iff (hr.perm (columns_perm h))]
  simp only [h.mem_iff]

theorem getAs_perm (hr : DistinctNames r.columns) (h : r.cells.Perm r'.cells) :
    r.getAs decode column = r'.getAs decode column := by
  rw [getAs, getAs, get, get, get?_perm hr h]

theorem cells_nested_perm (h : r.cells.Perm r'.cells) (start : String) :
    (r.nested start).cells.Perm (r'.nested start).cells := by
  rw [cells_nested, cells_nested]
  exact h.filterMap _

/-! ### Taking columns -/

theorem Finds.same {before after : List (String × Value)} {cell : String × Value}
    (h : r.Finds column before cell after) : Text.sameIgnoringCase column cell.1 = true := by
  rcases h.first with ⟨hname, -⟩ | ⟨-, hsame, -⟩
  · rw [hname]
    exact Text.sameIgnoringCase_self column
  · exact hsame

theorem Finds.perm_cells {before after : List (String × Value)} {cell : String × Value}
    (h : r.Finds column before cell after) : (cell :: (before ++ after)).Perm r.cells := by
  rw [h.cells_eq]
  exact List.perm_middle.symm

/-- Of distinct columns, both orders find the same one, and the others stay. -/
theorem Finds.perm (hr : DistinctNames r.columns) (h : r.cells.Perm r'.cells)
    {before after before' after' : List (String × Value)} {cell cell' : String × Value}
    (hfinds : r.Finds column before cell after) (hfinds' : r'.Finds column before' cell' after') :
    cell = cell' ∧ (before ++ after).Perm (before' ++ after') := by
  have hcells := (hfinds.perm_cells.trans h).trans hfinds'.perm_cells.symm
  have hmem : cell ∈ r.cells := hfinds.perm_cells.subset List.mem_cons_self
  have hmem' : cell' ∈ r.cells := h.symm.subset (hfinds'.perm_cells.subset List.mem_cons_self)
  have hsame := Text.sameIgnoringCase_trans (Text.sameIgnoringCase_symm hfinds.same) hfinds'.same
  obtain rfl : cell = cell' := eq_of_mem_of_same hr hmem hmem' hsame
  exact ⟨rfl, hcells.cons_inv⟩

/-- What is left of distinct columns is distinct. -/
theorem distinctNames_take (hr : DistinctNames r.columns) (decode : Value → Except Failure α)
    (column : String) : DistinctNames (r.take decode column).2.columns := by
  cases hposition : r.position? column with
  | none =>
      rw [take_of_position?_eq_none decode hposition]
      exact hr
  | some i =>
      obtain ⟨before, cell, after, hfinds, rfl⟩ := exists_finds_of_position?_eq_some hposition
      rw [take_of_position?_eq_some decode hposition hfinds.cells_eq]
      have hsublist : (before ++ after).Sublist r.cells := by
        rw [hfinds.cells_eq]
        exact List.Sublist.append_left (List.sublist_cons_self cell after) before
      exact List.Pairwise.sublist (hsublist.map Prod.fst) hr

theorem take_perm (hr : DistinctNames r.columns) (h : r.cells.Perm r'.cells)
    (decode : Value → Except Failure α) (column : String) :
    (r.take decode column).1 = (r'.take decode column).1 ∧
      (r.take decode column).2.cells.Perm (r'.take decode column).2.cells := by
  cases hposition : r.position? column with
  | none =>
      have hposition' : r'.position? column = none := by
        rw [position?_eq_none_iff] at hposition ⊢
        intro name hname
        exact hposition name ((columns_perm h).symm.subset hname)
      rw [take_of_position?_eq_none decode hposition, take_of_position?_eq_none decode hposition']
      exact ⟨rfl, h⟩
  | some i =>
      obtain ⟨before, cell, after, hfinds, rfl⟩ := exists_finds_of_position?_eq_some hposition
      cases hposition' : r'.position? column with
      | none =>
          have hcell : cell ∈ r'.cells := h.subset (hfinds.perm_cells.subset List.mem_cons_self)
          have hother := position?_eq_none_iff.mp hposition' cell.1 (List.mem_map_of_mem hcell)
          rw [hfinds.same] at hother
          exact absurd hother (by simp)
      | some j =>
          obtain ⟨before', cell', after', hfinds', rfl⟩ :=
            exists_finds_of_position?_eq_some hposition'
          obtain ⟨rfl, hrest⟩ := hfinds.perm hr h hfinds'
          rw [take_of_position?_eq_some decode hposition hfinds.cells_eq,
            take_of_position?_eq_some decode hposition' hfinds'.cells_eq]
          exact ⟨rfl, hrest⟩

/-! ### Maps of columns -/

section

variable {α : Type} {pairs pairs' : List (String × α)}

variable {key k a b : String} {x y : α}

theorem putKey_cons_of_lt (h : key < k) (x y : α) (rest : List (String × α)) :
    putKey key x ((k, y) :: rest) = (key, x) :: (k, y) :: rest := by
  rw [putKey, if_pos h]

theorem putKey_cons_self (key : String) (x y : α) (rest : List (String × α)) :
    putKey key x ((key, y) :: rest) = (key, x) :: rest := by
  rw [putKey, if_neg (String.lt_irrefl key), if_pos rfl]

theorem putKey_cons_of_gt (h : k < key) (x y : α) (rest : List (String × α)) :
    putKey key x ((k, y) :: rest) = (k, y) :: putKey key x rest := by
  have hne : key ≠ k := by
    rintro rfl
    exact String.lt_irrefl key h
  rw [putKey, if_neg (String.lt_asymm h), if_neg hne]

/-- A key in front of all that is written is put in front. -/
theorem putKey_putKey_of_lt_head (hab : a < b) (hak : a < k) (x y z : α)
    (rest : List (String × α)) :
    putKey a x (putKey b y ((k, z) :: rest)) = (a, x) :: putKey b y ((k, z) :: rest) := by
  rcases Std.lt_trichotomy b k with hbk | rfl | hkb
  · rw [putKey_cons_of_lt hbk, putKey_cons_of_lt hab]
  · rw [putKey_cons_self, putKey_cons_of_lt hab]
  · rw [putKey_cons_of_gt hkb, putKey_cons_of_lt hak]

theorem putKey_comm_of_lt (hab : a < b) (x y : α) (m : List (String × α)) :
    putKey a x (putKey b y m) = putKey b y (putKey a x m) := by
  induction m with
  | nil =>
      show putKey a x [(b, y)] = putKey b y [(a, x)]
      rw [putKey_cons_of_lt hab, putKey_cons_of_gt hab]
      rfl
  | cons entry rest ih =>
      obtain ⟨k, z⟩ := entry
      rcases Std.lt_trichotomy a k with hak | rfl | hka
      · rw [putKey_putKey_of_lt_head hab hak, putKey_cons_of_lt hak, putKey_cons_of_gt hab]
      · rw [putKey_cons_of_gt hab, putKey_cons_self, putKey_cons_self, putKey_cons_of_gt hab]
      · have hkb := String.lt_trans hka hab
        rw [putKey_cons_of_gt hkb, putKey_cons_of_gt hka, putKey_cons_of_gt hka,
          putKey_cons_of_gt hkb, ih]

/-- Writing under two different keys can be done in either order. -/
theorem putKey_comm (hne : a ≠ b) (x y : α) (m : List (String × α)) :
    putKey a x (putKey b y m) = putKey b y (putKey a x m) := by
  rcases Std.lt_trichotomy a b with hab | heq | hba
  · exact putKey_comm_of_lt hab x y m
  · exact absurd heq hne
  · exact (putKey_comm_of_lt hba y x m).symm

/-- The order in which different keys are written does not matter. -/
theorem mapOf_perm (h : pairs.Perm pairs') (hdistinct : (pairs.map (·.1)).Nodup) :
    mapOf pairs = mapOf pairs' := by
  refine h.foldl_eq' ?_ []
  intro p hp q hq m
  by_cases hkey : p.1 = q.1
  · rw [List.inj_on_of_nodup_map hdistinct hp hq hkey]
  · exact putKey_comm (Ne.symm hkey) _ _ m

end

theorem toMap_perm (hr : DistinctNames r.columns) (h : r.cells.Perm r'.cells)
    {m : List (String × α)} (hm : r.toMap decode = .ok m) : r'.toMap decode = .ok m := by
  obtain ⟨pairs, hread, rfl⟩ := toMap_eq_ok_iff.mp hm
  obtain ⟨pairs', hread', hperm⟩ := List.perm_comp_forall₂ h.symm hread
  have hdistinct : (pairs'.map (·.1)).Nodup := by
    rw [map_fst_of_readAs hread']
    exact (hr.perm (columns_perm h)).nodup
  exact toMap_eq_ok_iff.mpr ⟨pairs', hread', (mapOf_perm hperm hdistinct).symm⟩

/-- **What is read from distinct columns does not depend on their order.**

Looking a column up, decoding it, also behind a prefix, taking it and decoding all columns as a
map give the same in both orders, whatever values are decoded to.  What is left of the rows when
a column is taken are again distinct columns in two orders. -/
theorem reading_perm (hr : DistinctNames r.columns) (h : r.cells.Perm r'.cells) :
    (∀ column, r.get? column = r'.get? column) ∧
    ∀ (α : Type) (decode : Value → Except Failure α),
      (∀ column, r.getAs decode column = r'.getAs decode column) ∧
      (∀ start column,
        (r.nested start).getAs decode column = (r'.nested start).getAs decode column) ∧
      (∀ column, (r.take decode column).1 = (r'.take decode column).1 ∧
        (r.take decode column).2.cells.Perm (r'.take decode column).2.cells ∧
        DistinctNames (r.take decode column).2.columns) ∧
      (∀ m, r.toMap decode = .ok m ↔ r'.toMap decode = .ok m) := by
  refine ⟨fun _ => get?_perm hr h, ?_⟩
  intro α decode
  refine ⟨fun _ => getAs_perm hr h, ?_, ?_, ?_⟩
  · intro start column
    exact getAs_perm (distinctNames_nested hr start) (cells_nested_perm h start)
  · intro column
    obtain ⟨hresult, hrest⟩ := take_perm hr h decode column
    exact ⟨hresult, hrest, distinctNames_take hr decode column⟩
  · intro m
    exact ⟨toMap_perm hr h, toMap_perm (hr.perm (columns_perm h)) h.symm⟩

/-- A city that moves to the front is still read behind its prefix, and what is left once it is
taken are the same columns. -/
theorem reading_perm_city_in_front :
    let r : Row := ⟨[("id", .int 1), ("Name", .text "ann"), ("home.City", .text "Oslo")]⟩
    let r' : Row := ⟨[("home.City", .text "Oslo"), ("id", .int 1), ("Name", .text "ann")]⟩
    let text := ValueType.text.decode
    let value := ValueType.value.decode
    DistinctNames r.columns ∧ r.cells.Perm r'.cells ∧
      r.getAs text "NAME" = .ok "ann" ∧ r'.getAs text "NAME" = .ok "ann" ∧
      (r.nested "home").getAs text "city" = (r'.nested "home").getAs text "city" ∧
      (r.take text "home.city").2.cells.Perm (r'.take text "home.city").2.cells ∧
      (r.toMap value = .ok [("Name", .text "ann"), ("home.City", .text "Oslo"), ("id", .int 1)] ↔
        r'.toMap value =
          .ok [("Name", .text "ann"), ("home.City", .text "Oslo"), ("id", .int 1)]) := by
  intro r r' text value
  have hr : DistinctNames r.columns := by decide
  have h : r.cells.Perm r'.cells := by
    show ([_, _] ++ [_]).Perm ([_] ++ [_, _])
    exact List.perm_append_comm
  obtain ⟨-, hdecoded⟩ := reading_perm hr h
  obtain ⟨hgetAs, hnested, htake, -⟩ := hdecoded _ text
  obtain ⟨-, -, -, hmap⟩ := hdecoded _ value
  have hname : r.getAs text "NAME" = .ok "ann" := rfl
  exact ⟨hr, h, hname, (hgetAs "NAME").symm.trans hname, hnested "home" "city",
    (htake "home.city").2.1, hmap _⟩

end Row

end QueryMethods
