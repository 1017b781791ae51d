/-
A row read as a map from its columns.

A row may have several columns of one name, as the rows of a join do, and a map has one value
under each of its keys.  The map is filled column by column and a later column overwrites an
earlier one, so of several columns the last counts; read by its name, a column is looked for from
the front, so of several the first counts.  Apart from that the two readings are the same: the
keys are the names of the columns, and a column whose name is exactly the one asked for is found
before any whose name differs in case.

The map is kept in ascending order of its keys.  What it holds under a key does not depend on
that order, so `lookup_putKey` needs no assumption on the map that is written to, and what a whole
row leaves under a key follows by induction from the last column.
-/
import Mathlib.Data.List.Induction
import QueryMethods.Proofs.Attempts
import QueryMethods.Proofs.Row.Lookup

namespace QueryMethods

namespace Row

/-! ### Maps by ascending key -/

section

variable {α : Type} {key other : String} {x : α} {m : List (String × α)}

theorem lookup_cons_pair (m : List (String × α)) (key : String) (x : α) (other : String) :
    List.lookup other ((key, x) :: m) = if other = key then some x else m.lookup other := by
  by_cases heq : other = key
  · rw [if_pos heq, heq, List.lookup_cons_self]
  · rw [if_neg heq, List.lookup_cons, beq_eq_false_iff_ne.mpr heq]

/-- Writing under one key changes what is under that key alone. -/
theorem lookup_putKey (key : String) (x : α) (m : List (String × α)) (other : String) :
    (putKey key x m).lookup other = if other = key then some x else m.lookup other := by
  induction m with
  | nil => exact lookup_cons_pair [] key x other
  | cons entry rest ih =>
      obtain ⟨k, y⟩ := entry
      rw [putKey]
      split
      · exact lookup_cons_pair _ key x other
      · split
        · rename_i hkey
          rw [lookup_cons_pair, lookup_cons_pair, hkey]
          split <;> rfl
        · rename_i hkey
          rw [lookup_cons_pair, lookup_cons_pair, ih]
          -- the entry in front is not the one written, so the two tests never both hold
          by_cases heq : other = key
          · rw [if_pos heq, if_neg (heq ▸ hkey), if_pos heq]
          · rw [if_neg heq, if_neg heq]

theorem mem_keys_putKey :
    other ∈ (putKey key x m).map (·.1) ↔ other = key ∨ other ∈ m.map (·.1) := by
  induction m with
  | nil => simp [putKey]
  | cons entry rest ih =>
      obtain ⟨k, y⟩ := entry
      rw [putKey]
      split
      · simp
      · split
        · rename_i hkey
          simp [hkey]
        · rw [List.map_cons, List.map_cons, List.mem_cons, List.mem_cons, ih]
          exact or_left_comm

/-- Writing keeps the keys in ascending order. -/
theorem pairwise_putKey (h : (m.map (·.1)).Pairwise (· < ·)) :
    ((putKey key x m).map (·.1)).Pairwise (· < ·) := by
  induction m with
  | nil => simp [putKey]
  | cons entry rest ih =>
      obtain ⟨k, y⟩ := entry
      rw [List.map_cons, List.pairwise_cons] at h
      rw [putKey]
      split
      · rename_i hless
        rw [List.map_cons, List.map_cons, List.pairwise_cons, List.pairwise_cons]
        refine ⟨?_, h⟩
        intro other hother
        rcases List.mem_cons.mp hother with rfl | hrest
        · exact hless
        · exact String.lt_trans hless (h.1 other hrest)
      · split
        · rename_i hkey
          rw [List.map_cons, List.pairwise_cons, hkey]
          exact h
        · rename_i hless hkey
          rw [List.map_cons, List.pairwise_cons]
          refine ⟨?_, ih h.2⟩
          intro other hother
          rcases mem_keys_putKey.mp hother with rfl | hrest
          · exact Std.lt_of_le_of_ne (String.not_lt.mp hless) (Ne.symm hkey)
          · exact h.1 other hrest

/-- The map that pairs leave when they are written one after the other. -/
def mapOf (pairs : List (String × α)) : List (String × α) :=
  pairs.foldl (fun m pair => putKey pair.1 pair.2 m) []

theorem mapOf_concat (pairs : List (String × α)) (pair : String × α) :
    mapOf (pairs ++ [pair]) = putKey pair.1 pair.2 (mapOf pairs) := by
  rw [mapOf, List.foldl_append]
  rfl

/-- The last pair of a key counts. -/
theorem lookup_mapOf (pairs : List (String × α)) (key : String) :
    (mapOf pairs).lookup key = pairs.reverse.lookup key := by
  induction pairs using List.reverseRecOn with
  | nil => rfl
  | append_singleton pairs pair ih =>
      rw [mapOf_concat, lookup_putKey, List.reverse_concat, lookup_cons_pair, ih]

theorem mem_keys_mapOf (pairs : List (String × α)) :
    key ∈ (mapOf pairs).map (·.1) ↔ key ∈ pairs.map (·.1) := by
  induction pairs using List.reverseRecOn with
  | nil => rfl
  | append_singleton pairs pair ih =>
      rw [mapOf_concat, mem_keys_putKey, ih, List.map_append, List.mem_append]
      simp [or_comm]

theorem pairwise_mapOf (pairs : List (String × α)) :
    ((mapOf pairs).map (·.1)).Pairwise (· < ·) := by
  induction pairs using List.reverseRecOn with
  | nil => exact .nil
  | append_singleton pairs pair ih =>
      rw [mapOf_concat]
      exact pairwise_putKey ih

end

/-! ### Reading every column -/

section

variable {α : Type} {decode : Value → Except Failure α}

/-- A pair has the name of a column and what its value is read as. -/
def ReadAs (decode : Value → Except Failure α) (cell : String × Value) (pair : String × α) :
    Prop :=
  cell.1 = pair.1 ∧ decode cell.2 = .ok pair.2

theorem readCells_eq_ok_iff {cells : List (String × Value)} {pairs : List (String × α)} :
    readCells decode cells = .ok pairs ↔ List.Forall₂ (ReadAs decode) cells pairs := by
  induction cells generalizing pairs with
  | nil =>
      rw [readCells, List.forall₂_nil_left_iff, Except.ok.injEq]
      exact eq_comm
  | cons cell rest ih =>
      obtain ⟨column, v⟩ := cell
      rw [readCells, List.forall₂_cons_left_iff]
      constructor
      · intro h
        obtain ⟨x, hv, h⟩ := exists_of_bind_eq_ok h
        obtain ⟨xs, hrest, h⟩ := exists_of_bind_eq_ok h
        exact ⟨(column, x), xs, ⟨rfl, hv⟩, ih.mp hrest, (Except.ok.inj h).symm⟩
      · rintro ⟨⟨name, x⟩, xs, ⟨rfl, hv⟩, hrest, rfl⟩
        rw [hv, ih.mpr hrest]
        rfl

/-- Every column is read if each of them is. -/
theorem exists_readCells_iff {cells : List (String × Value)} :
    (∃ pairs, readCells decode cells = .ok pairs) ↔
      ∀ cell ∈ cells, ∃ x, decode cell.2 = .ok x := by
  simp only [readCells_eq_ok_iff]
  rw [exists_forall₂_iff]
  refine forall₂_congr (fun cell _ => ?_)
  constructor
  · rintro ⟨pair, -, hx⟩
    exact ⟨pair.2, hx⟩
  · rintro ⟨x, hx⟩
    exact ⟨(cell.1, x), rfl, hx⟩

theorem map_fst_of_readAs {cells : List (String × Value)} {pairs : List (String × α)}
    (h : List.Forall₂ (ReadAs decode) cells pairs) : pairs.map (·.1) = cells.map (·.1) :=
  map_eq_map_of_forall₂ h (fun _ _ hpair => hpair.1.symm)

/-- What is read under a name is what the value under that name is read as. -/
theorem lookup_of_readAs {cells : List (String × Value)} {pairs : List (String × α)}
    (h : List.Forall₂ (ReadAs decode) cells pairs) {column : String} {v : Value}
    (hv : cells.lookup column = some v) :
    ∃ x, decode v = .ok x ∧ pairs.lookup column = some x := by
  induction h with
  | nil => simp at hv
  | @cons cell pair cells pairs hpair _ ih =>
      obtain ⟨name, w⟩ := cell
      obtain ⟨name', x⟩ := pair
      obtain ⟨rfl, hx⟩ := hpair
      rw [List.lookup_cons] at hv ⊢
      cases heq : column == name with
      | true =>
          rw [heq] at hv
          exact ⟨x, Option.some.inj hv ▸ hx, rfl⟩
      | false =>
          rw [heq] at hv
          exact ih hv

end

/-! ### Columns of one name -/

section

variable {r : Row} {column : String}

/-- The value of the first column of exactly a name. -/
def firstNamed? (r : Row) (column : String) : Option Value := r.cells.lookup column

/-- The value of the last column of exactly a name. -/
def lastNamed? (r : Row) (column : String) : Option Value := r.cells.reverse.lookup column

theorem exists_lookup {cells : List (String × Value)} (h : column ∈ cells.map (·.1)) :
    ∃ v, cells.lookup column = some v := by
  obtain ⟨cell, hcell, rfl⟩ := List.mem_map.mp h
  exact Option.isSome_iff_exists.mp (List.lookup_isSome_iff.mpr ⟨cell, hcell, by simp⟩)

theorem exists_firstNamed? (h : column ∈ r.columns) : ∃ v, r.firstNamed? column = some v :=
  exists_lookup h

theorem exists_lastNamed? (h : column ∈ r.columns) : ∃ v, r.lastNamed? column = some v :=
  exists_lookup (by rwa [List.map_reverse, List.mem_reverse])

/-- Where some column has exactly the name, the first of them is found. -/
theorem get?_of_mem_columns (h : column ∈ r.columns) : r.get? column = r.firstNamed? column := by
  cases hposition : r.position? column with
  | none =>
      have hother := position?_eq_none_iff.mp hposition column h
      rw [Text.sameIgnoringCase_self] at hother
      exact absurd hother (by simp)
  | some i =>
      obtain ⟨before, cell, after, hfinds, rfl⟩ := exists_finds_of_position?_eq_some hposition
      rw [get?_of_position?_eq_some hposition hfinds.cells_eq]
      rcases hfinds.first with ⟨rfl, hbefore⟩ | ⟨hno, -, -⟩
      · refine (List.lookup_eq_some_iff.mpr ⟨before, after, hfinds.cells_eq, ?_⟩).symm
        exact fun other hother => bne_iff_ne.mpr (hbefore other hother).symm
      · exact absurd h hno

/-- Of distinct names the first column is the last. -/
theorem lastNamed?_eq_firstNamed? (hr : r.columns.Nodup) {v : Value}
    (h : r.firstNamed? column = some v) : r.lastNamed? column = some v := by
  obtain ⟨before, after, hcells, -⟩ := List.lookup_eq_some_iff.mp h
  refine List.lookup_eq_some_iff.mpr ⟨after.reverse, before.reverse, by simp [hcells], ?_⟩
  intro other hother
  rw [columns, hcells, List.map_append, List.map_cons] at hr
  have hapart := (List.nodup_cons.mp (List.nodup_append.mp hr).2.1).1
  have hmem : other.1 ∈ after.map (·.1) := List.mem_map_of_mem (List.mem_reverse.mp hother)
  exact bne_iff_ne.mpr (fun heq => hapart (heq ▸ hmem))

end

/-! ### The map of a row -/

section

variable {α : Type} {decode : Value → Except Failure α} {r : Row} {m : List (String × α)}
  {column : String}

/-- The map and the row have one value under a name. -/
def AgreeAt (decode : Value → Except Failure α) (r : Row) (m : List (String × α))
    (column : String) : Prop :=
  ∃ x, m.lookup column = some x ∧ r.getAs decode column = .ok x

theorem toMap_eq_ok_iff :
    r.toMap decode = .ok m ↔
      ∃ pairs, List.Forall₂ (ReadAs decode) r.cells pairs ∧ m = mapOf pairs := by
  simp only [← readCells_eq_ok_iff, toMap]
  cases readCells decode r.cells with
  | error e => exact iff_of_false (fun h => nomatch h) (fun ⟨_, h, _⟩ => nomatch h)
  | ok pairs =>
      constructor
      · intro h
        exact ⟨pairs, rfl, (Except.ok.inj h).symm⟩
      · rintro ⟨_, hpairs, rfl⟩
        rw [← Except.ok.inj hpairs]
        rfl

theorem exists_toMap_iff :
    (∃ m, r.toMap decode = .ok m) ↔ ∀ cell ∈ r.cells, ∃ x, decode cell.2 = .ok x := by
  rw [← exists_readCells_iff]
  simp only [toMap_eq_ok_iff, readCells_eq_ok_iff]
  exact ⟨fun ⟨_, pairs, hpairs, _⟩ => ⟨pairs, hpairs⟩,
    fun ⟨pairs, hpairs⟩ => ⟨_, pairs, hpairs, rfl⟩⟩

/-- Read by its name, a column is the first of that name. -/
theorem getAs_of_mem_columns {v : Value} (h : column ∈ r.columns)
    (hfirst : r.firstNamed? column = some v) : r.getAs decode column = decode v :=
  getAs_of_get?_eq_some decode ((get?_of_mem_columns h).trans hfirst)

/-- The map has the last column of a name. -/
theorem lookup_toMap {v : Value} (h : r.toMap decode = .ok m)
    (hlast : r.lastNamed? column = some v) :
    ∃ x, decode v = .ok x ∧ m.lookup column = some x := by
  obtain ⟨pairs, hread, rfl⟩ := toMap_eq_ok_iff.mp h
  rw [lookup_mapOf]
  exact lookup_of_readAs (List.forall₂_reverse_iff.mpr hread) hlast

/-- The map and the row agree on a name exactly if the first column of that name and the last
are decoded to the same. -/
theorem agreeAt_iff {first last : Value} (h : r.toMap decode = .ok m) (hmem : column ∈ r.columns)
    (hfirst : r.firstNamed? column = some first) (hlast : r.lastNamed? column = some last) :
    r.AgreeAt decode m column ↔ decode first = decode last := by
  obtain ⟨x, hx, hlookup⟩ := lookup_toMap h hlast
  rw [AgreeAt, getAs_of_mem_columns hmem hfirst, hlookup, hx]
  constructor
  · rintro ⟨_, hsame, hread⟩
    rw [hread, Option.some.inj hsame]
  · exact fun hread => ⟨x, rfl, hread⟩

end

/-- **The map of a row has the last column of each name where reading by name has the first.**

There is a map if every column can be decoded.  Its keys are the names of the columns, in
ascending order and each once.  Under a name the map has what the last column of that name is
decoded to and the row what the first is, so they agree where these are the same, and everywhere
in a row without repeated names. -/
theorem toMap_agrees_iff {α : Type} (decode : Value → Except Failure α) (r : Row) :
    ((∃ m, r.toMap decode = .ok m) ↔ ∀ cell ∈ r.cells, ∃ x, decode cell.2 = .ok x) ∧
    ∀ m, r.toMap decode = .ok m →
      (m.map (·.1)).Pairwise (· < ·) ∧
      (∀ column, column ∈ m.map (·.1) ↔ column ∈ r.columns) ∧
      (∀ column ∈ r.columns, ∃ first last x,
        r.firstNamed? column = some first ∧ r.getAs decode column = decode first ∧
        r.lastNamed? column = some last ∧ decode last = .ok x ∧ m.lookup column = some x ∧
        (r.AgreeAt decode m column ↔ decode first = decode last)) ∧
      (r.columns.Nodup → ∀ column ∈ r.columns, r.AgreeAt decode m column) := by
  refine ⟨exists_toMap_iff, ?_⟩
  intro m hm
  obtain ⟨pairs, hread, hmap⟩ := toMap_eq_ok_iff.mp hm
  refine ⟨hmap ▸ pairwise_mapOf pairs, ?_, ?_, ?_⟩
  · intro column
    rw [hmap, mem_keys_mapOf, map_fst_of_readAs hread, columns]
  · intro column hcolumn
    obtain ⟨first, hfirst⟩ := exists_firstNamed? hcolumn
    obtain ⟨last, hlast⟩ := exists_lastNamed? hcolumn
    obtain ⟨x, hx, hlookup⟩ := lookup_toMap hm hlast
    exact ⟨first, last, x, hfirst, getAs_of_mem_columns hcolumn hfirst, hlast, hx, hlookup,
      agreeAt_iff hm hcolumn hfirst hlast⟩
  · intro hdistinct column hcolumn
    obtain ⟨first, hfirst⟩ := exists_firstNamed? hcolumn
    exact (agreeAt_iff hm hcolumn hfirst (lastNamed?_eq_firstNamed? hdistinct hfirst)).mpr rfl

/-- Names that differ in case alone are names of their own to the map and to the row. -/
theorem toMap_agrees_iff_letter_case :
    let r : Row := ⟨[("id", .int 1), ("name", .int 7), ("ID", .bool true)]⟩
    let number := (ValueType.integer .i64).decode
    let m : List (String × (ValueType.integer .i64).Carrier) :=
      [("ID", ⟨1, by decide⟩), ("id", ⟨1, by decide⟩), ("name", ⟨7, by decide⟩)]
    r.toMap number = .ok m ∧ r.columns.Nodup ∧ r.AgreeAt number m "ID" ∧
      r.AgreeAt number m "id" := by
  intro r number m
  have hm : r.toMap number = .ok m := rfl
  have hdistinct : r.columns.Nodup := by decide
  obtain ⟨-, -, -, hagree⟩ := (toMap_agrees_iff number r).2 m hm
  exact ⟨hm, hdistinct, hagree hdistinct "ID" (by decide), hagree hdistinct "id" (by decide)⟩

/-- Of two columns of one name the map has the second and the row reads the first. -/
theorem toMap_of_repeated_name :
    let r : Row := ⟨[("id", .int 1), ("name", .int 7), ("id", .int 2)]⟩
    let number := (ValueType.integer .i64).decode
    r.toMap number = .ok [("id", ⟨2, by decide⟩), ("name", ⟨7, by decide⟩)] ∧
      r.getAs number "id" = .ok ⟨1, by decide⟩ :=
  ⟨rfl, rfl⟩

end Row

end QueryMethods
