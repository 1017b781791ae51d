/-
When renaming pair by pair is renaming at once.

`remap` carries out the pairs of a mapping one after the other, and each pair looks its column
up among the names that the pairs before it left.  So a pair can meet a column that it does not
name: a swap of two columns renames the first one twice and the second one not at all.

What a mapping means is `renamedAtOnce`: every column that some pair names gets the property of
that pair.  A mapping leaves a row undisturbed if each pair still meets the column it names
once the pairs before it have been carried out at once.  Then, by induction on the mapping,
pair by pair and at once are the same.  And where no two pairs have one property they are the
same only then: a column that a wrong pair meets gets a property that is not its own, and no
later pair can give the right one back.
-/
import Mathlib.Data.List.Induction
import QueryMethods.Proofs.Row.Lookup

namespace QueryMethods

/-- The property that a mapping gives a column, which keeps its name if no pair names it. -/
def mappedName (mapping : List (String × String)) (name : String) : String :=
  ((mapping.find? (fun pair => Text.sameIgnoringCase pair.1 name)).map (·.2)).getD name

namespace Row

/-- The row with every column renamed at once. -/
def renamedAtOnce (r : Row) (mapping : List (String × String)) : Row :=
  ⟨r.cells.map (fun (name, v) => (mappedName mapping name, v))⟩

/-- Every pair meets the column that it names, once those before it are carried out at once. -/
def Undisturbed (r : Row) (mapping : List (String × String)) : Prop :=
  ∀ before pair after, mapping = before ++ pair :: after →
    (r.renamedAtOnce before).position? pair.1 = r.position? pair.1

end Row

/-! ### What a mapping means -/

section

variable {mapping : List (String × String)} {pair : String × String} {name : String}

theorem mappedName_of_unnamed
    (h : ∀ pair ∈ mapping, Text.sameIgnoringCase pair.1 name = false) :
    mappedName mapping name = name := by
  have hnone : mapping.find? (fun pair => Text.sameIgnoringCase pair.1 name) = none :=
    List.find?_eq_none.mpr (fun pair hpair => by simp [h pair hpair])
  rw [mappedName, hnone]
  rfl

/-- A column has its own name or the property of a pair that names it. -/
theorem mappedName_cases (mapping : List (String × String)) (name : String) :
    (∃ pair ∈ mapping, Text.sameIgnoringCase pair.1 name = true ∧
      mappedName mapping name = pair.2) ∨
    (∀ pair ∈ mapping, Text.sameIgnoringCase pair.1 name = false) := by
  cases hfind : mapping.find? (fun pair => Text.sameIgnoringCase pair.1 name) with
  | some pair =>
      have hsame := List.find?_some hfind
      refine Or.inl ⟨pair, List.mem_of_find?_eq_some hfind, hsame, ?_⟩
      rw [mappedName, hfind]
      rfl
  | none =>
      refine Or.inr ?_
      intro pair hpair
      exact Bool.eq_false_iff.mpr (List.find?_eq_none.mp hfind pair hpair)

theorem mappedName_concat_of_other (h : Text.sameIgnoringCase pair.1 name = false) :
    mappedName (mapping ++ [pair]) name = mappedName mapping name := by
  rw [mappedName, mappedName, List.find?_append, List.find?_singleton, h]
  simp

theorem distinctNames_of_concat (h : DistinctNames ((mapping ++ [pair]).map (·.1))) :
    DistinctNames (mapping.map (·.1)) := by
  rw [DistinctNames, List.map_append, List.pairwise_append] at h
  exact h.1

/-- A column that the last of distinct pairs names is named by no other. -/
theorem unnamed_of_concat (hm : DistinctNames ((mapping ++ [pair]).map (·.1)))
    (h : Text.sameIgnoringCase pair.1 name = true) :
    ∀ other ∈ mapping, Text.sameIgnoringCase other.1 name = false := by
  intro other hother
  rw [DistinctNames, List.map_append, List.pairwise_append] at hm
  have hapart := hm.2.2 other.1 (List.mem_map_of_mem hother) pair.1 (by simp)
  rw [Bool.eq_false_iff] at hapart ⊢
  intro hname
  exact hapart (Text.sameIgnoringCase_trans hname (Text.sameIgnoringCase_symm h))

theorem mappedName_concat_of_named (hm : DistinctNames ((mapping ++ [pair]).map (·.1)))
    (h : Text.sameIgnoringCase pair.1 name = true) :
    mappedName (mapping ++ [pair]) name = pair.2 := by
  have hnone : mapping.find? (fun pair => Text.sameIgnoringCase pair.1 name) = none :=
    List.find?_eq_none.mpr (fun other hother => by simp [unnamed_of_concat hm h other hother])
  rw [mappedName, List.find?_append, hnone, List.find?_singleton, h]
  rfl

/-- Where properties are distinct, only the pair of a property gives it. -/
theorem unnamed_of_mappedName_eq (hp : ((mapping ++ [pair]).map (·.2)).Nodup)
    (h : mappedName mapping name = pair.2) :
    ∀ other ∈ mapping, Text.sameIgnoringCase other.1 name = false := by
  rcases mappedName_cases mapping name with ⟨other, hother, -, hproperty⟩ | hunnamed
  · rw [List.map_append, List.nodup_append] at hp
    exact absurd (hproperty.symm.trans h)
      (hp.2.2 other.2 (List.mem_map_of_mem hother) pair.2 (by simp))
  · exact hunnamed

end

/-! ### One pair -/

namespace Row

variable {r : Row} {mapping : List (String × String)} {pair : String × String}

theorem eq_of_cells {r r' : Row} (h : ∀ i : Nat, r.cells[i]? = r'.cells[i]?) : r = r' := by
  cases r
  cases r'
  exact congrArg Row.mk (List.ext_getElem? h)

theorem renamedAtOnce_getElem? (r : Row) (mapping : List (String × String)) (i : Nat) :
    (r.renamedAtOnce mapping).cells[i]? =
      (r.cells[i]?).map (fun (name, v) => (mappedName mapping name, v)) :=
  List.getElem?_map

theorem renamedAtOnce_of_cell {i : Nat} {name : String} {v : Value}
    (h : r.cells[i]? = some (name, v)) :
    (r.renamedAtOnce mapping).cells[i]? = some (mappedName mapping name, v) := by
  rw [renamedAtOnce_getElem?, h]
  rfl

/-- Renaming a column changes its name and nothing else. -/
theorem rename_getElem? (r : Row) (column property : String) (i : Nat) :
    (r.rename column property).cells[i]? = (r.cells[i]?).map (fun (name, v) =>
      (if r.position? column = some i then property else name, v)) := by
  rw [rename]
  cases hposition : r.position? column with
  | none => simp
  | some j =>
      simp only [renameAt, List.getElem?_modify, Option.some.injEq]
      by_cases hij : j = i
      · simp [hij]
      · simp [hij]

theorem remap_concat (r : Row) (mapping : List (String × String)) (pair : String × String) :
    r.remap (mapping ++ [pair]) = (r.remap mapping).rename pair.1 pair.2 := by
  rw [remap, List.foldl_append]
  rfl

theorem map_snd_rename (r : Row) (column property : String) :
    (r.rename column property).cells.map (·.2) = r.cells.map (·.2) := by
  refine List.ext_getElem? (fun i => ?_)
  rw [List.getElem?_map, List.getElem?_map, rename_getElem?, Option.map_map]
  rfl

/-- Renaming keeps every value in its place. -/
theorem map_snd_remap (r : Row) (mapping : List (String × String)) :
    (r.remap mapping).cells.map (·.2) = r.cells.map (·.2) := by
  induction mapping using List.reverseRecOn with
  | nil => rfl
  | append_singleton mapping pair ih => rw [remap_concat, map_snd_rename, ih]

theorem exists_remap_getElem? {i : Nat} {name : String} {v : Value}
    (h : r.cells[i]? = some (name, v)) (mapping : List (String × String)) :
    ∃ property, (r.remap mapping).cells[i]? = some (property, v) := by
  have hvalue : ((r.remap mapping).cells.map (·.2))[i]? = some v := by
    rw [map_snd_remap, List.getElem?_map, h]
    rfl
  rw [List.getElem?_map] at hvalue
  obtain ⟨⟨property, v'⟩, hcell, rfl⟩ := Option.map_eq_some_iff.mp hvalue
  exact ⟨property, hcell⟩

/-- A column that no pair names keeps its name, whatever becomes of the others. -/
theorem remap_of_unnamed {i : Nat} {name : String} {v : Value}
    (hcell : r.cells[i]? = some (name, v))
    (h : ∀ pair ∈ mapping, Text.sameIgnoringCase pair.1 name = false) :
    (r.remap mapping).cells[i]? = some (name, v) := by
  induction mapping using List.reverseRecOn with
  | nil => exact hcell
  | append_singleton mapping pair ih =>
      have hkept := ih (fun other hother => h other (List.mem_append_left _ hother))
      have hmissed : (r.remap mapping).position? pair.1 ≠ some i := by
        intro hposition
        have hsame := same_of_position?_eq_some hposition hkept
        rw [h pair (by simp)] at hsame
        exact absurd hsame (by simp)
      rw [remap_concat, rename_getElem?, hkept]
      simp [hmissed]

/-- A pair that meets the column it names is carried out with those before it. -/
theorem rename_renamedAtOnce (hr : DistinctNames r.columns)
    (hm : DistinctNames ((mapping ++ [pair]).map (·.1)))
    (h : (r.renamedAtOnce mapping).position? pair.1 = r.position? pair.1) :
    (r.renamedAtOnce mapping).rename pair.1 pair.2 = r.renamedAtOnce (mapping ++ [pair]) := by
  refine eq_of_cells (fun i => ?_)
  rw [rename_getElem?, renamedAtOnce_getElem?, renamedAtOnce_getElem?, h, Option.map_map]
  refine Option.map_congr ?_
  rintro ⟨name, v⟩ hcell
  have hcell : r.cells[i]? = some (name, v) := hcell
  cases hsame : Text.sameIgnoringCase pair.1 name with
  | true =>
      have hposition : r.position? pair.1 = some i :=
        (position?_eq_some_iff hr).mpr ⟨name, v, hcell, hsame⟩
      simp [hposition, mappedName_concat_of_named hm hsame]
  | false =>
      have hposition : r.position? pair.1 ≠ some i := by
        intro hfound
        rw [same_of_position?_eq_some hfound hcell] at hsame
        exact absurd hsame (by simp)
      simp [hposition, mappedName_concat_of_other hsame]

/-- Where properties are distinct, a pair that is carried out with those before it has met the
column that it names. -/
theorem position?_of_rename_eq (hr : DistinctNames r.columns)
    (hm : DistinctNames ((mapping ++ [pair]).map (·.1)))
    (hp : ((mapping ++ [pair]).map (·.2)).Nodup)
    (h : (r.renamedAtOnce mapping).rename pair.1 pair.2 = r.renamedAtOnce (mapping ++ [pair])) :
    (r.renamedAtOnce mapping).position? pair.1 = r.position? pair.1 := by
  cases hposition : (r.renamedAtOnce mapping).position? pair.1 with
  | none =>
      cases hfound : r.position? pair.1 with
      | none => rfl
      | some i =>
          obtain ⟨name, v, hcell, hsame⟩ := exists_of_position?_eq_some hfound
          have hkept : (r.renamedAtOnce mapping).cells[i]? = some (name, v) := by
            rw [renamedAtOnce_of_cell hcell, mappedName_of_unnamed (unnamed_of_concat hm hsame)]
          rw [not_same_of_position?_eq_none hposition hkept] at hsame
          exact absurd hsame (by simp)
  | some i =>
      obtain ⟨property, v, hrenamed, hsame⟩ := exists_of_position?_eq_some hposition
      rw [renamedAtOnce_getElem?] at hrenamed
      obtain ⟨⟨name, v'⟩, hcell, hname⟩ := Option.map_eq_some_iff.mp hrenamed
      obtain ⟨rfl, rfl⟩ := Prod.mk.inj hname
      symm
      refine (position?_eq_some_iff hr).mpr ⟨name, v', hcell, ?_⟩
      by_contra hother
      have hother := Bool.eq_false_iff.mpr hother
      have hproperty : pair.2 = mappedName mapping name := by
        have hboth := congrArg (fun row => row.cells[i]?) h
        simp only [rename_getElem?, renamedAtOnce_getElem?, hcell, hposition, Option.map_some,
          if_pos, mappedName_concat_of_other hother, Option.some.injEq, Prod.mk.injEq] at hboth
        exact hboth.1
      rw [mappedName_of_unnamed (unnamed_of_mappedName_eq hp hproperty.symm), hother] at hsame
      exact absurd hsame (by simp)

/-- Where properties are distinct, no pair makes up for those before it. -/
theorem remap_eq_of_concat (hm : DistinctNames ((mapping ++ [pair]).map (·.1)))
    (hp : ((mapping ++ [pair]).map (·.2)).Nodup)
    (h : r.remap (mapping ++ [pair]) = r.renamedAtOnce (mapping ++ [pair])) :
    r.remap mapping = r.renamedAtOnce mapping := by
  refine eq_of_cells (fun i => ?_)
  have hboth := congrArg (fun row => row.cells[i]?) h
  simp only [remap_concat, rename_getElem?] at hboth
  cases hcell : r.cells[i]? with
  | none =>
      rw [renamedAtOnce_getElem?, hcell, Option.map_none, Option.map_eq_none_iff] at hboth
      rw [renamedAtOnce_getElem?, hcell, hboth, Option.map_none]
  | some cell =>
      obtain ⟨name, v⟩ := cell
      obtain ⟨property, hremapped⟩ := exists_remap_getElem? hcell mapping
      rw [renamedAtOnce_of_cell hcell, hremapped, Option.map_some, Option.some.injEq,
        Prod.mk.injEq] at hboth
      obtain ⟨hboth, -⟩ := hboth
      rw [renamedAtOnce_of_cell hcell]
      cases hsame : Text.sameIgnoringCase pair.1 name with
      | true =>
          have hunnamed := unnamed_of_concat hm hsame
          rw [remap_of_unnamed hcell hunnamed, mappedName_of_unnamed hunnamed]
      | false =>
          rw [mappedName_concat_of_other hsame] at hboth
          by_cases hposition : (r.remap mapping).position? pair.1 = some i
          · -- The pair has met a column that it does not name, which had its own name then.
            rw [if_pos hposition] at hboth
            have hunnamed := unnamed_of_mappedName_eq hp hboth.symm
            have hkept := remap_of_unnamed hcell hunnamed
            rw [same_of_position?_eq_some hposition hkept] at hsame
            exact absurd hsame (by simp)
          · rw [if_neg hposition] at hboth
            have hname : property = mappedName mapping name := hboth
            rw [hremapped, hname]

/-! ### All pairs -/

/-- Where each column is named or not as it was, a name is found where it was. -/
theorem position?_renamedAtOnce (hr : DistinctNames r.columns) {column : String}
    (h : ∀ (i : Nat) name v, r.cells[i]? = some (name, v) →
      Text.sameIgnoringCase column (mappedName mapping name) =
        Text.sameIgnoringCase column name) :
    (r.renamedAtOnce mapping).position? column = r.position? column := by
  have hcells : ∀ (i : Nat) property v, (r.renamedAtOnce mapping).cells[i]? = some (property, v) →
      Text.sameIgnoringCase column property = true →
      ∃ name, r.cells[i]? = some (name, v) ∧ Text.sameIgnoringCase column name = true := by
    intro i property v hrenamed hsame
    rw [renamedAtOnce_getElem?] at hrenamed
    obtain ⟨⟨name, v'⟩, hcell, hname⟩ := Option.map_eq_some_iff.mp hrenamed
    obtain ⟨rfl, rfl⟩ := Prod.mk.inj hname
    exact ⟨name, hcell, (h i name v' hcell).symm.trans hsame⟩
  cases hfound : r.position? column with
  | some i =>
      obtain ⟨name, v, hcell, hsame⟩ := exists_of_position?_eq_some hfound
      refine position?_eq_some_of_unique (renamedAtOnce_of_cell hcell)
        ((h i name v hcell).trans hsame) ?_
      intro j property w hrenamed hproperty
      obtain ⟨name', hcell', hsame'⟩ := hcells j property w hrenamed hproperty
      exact eq_of_same hr hcell' hcell
        (Text.sameIgnoringCase_trans (Text.sameIgnoringCase_symm hsame') hsame)
  | none =>
      cases hposition : (r.renamedAtOnce mapping).position? column with
      | none => rfl
      | some i =>
          obtain ⟨property, v, hrenamed, hsame⟩ := exists_of_position?_eq_some hposition
          obtain ⟨name, hcell, hsame'⟩ := hcells i property v hrenamed hsame
          rw [not_same_of_position?_eq_none hfound hcell] at hsame'
          exact absurd hsame' (by simp)

/-- A row is undisturbed where no property is the name that a later pair looks for. -/
theorem undisturbed_of_pairwise (hr : DistinctNames r.columns)
    (hm : DistinctNames (mapping.map (·.1)))
    (h : mapping.Pairwise (fun earlier later =>
      Text.sameIgnoringCase earlier.2 later.1 = false)) : r.Undisturbed mapping := by
  rintro before pair after rfl
  refine position?_renamedAtOnce hr ?_
  intro i name v hcell
  rcases mappedName_cases before name with ⟨other, hother, hnames, hproperty⟩ | hunnamed
  · rw [DistinctNames, List.map_append, List.pairwise_append] at hm
    have hapart := hm.2.2 other.1 (List.mem_map_of_mem hother) pair.1 (by simp)
    have hfresh := (List.pairwise_append.mp h).2.2 other hother pair (by simp)
    rw [Bool.eq_false_iff] at hapart hfresh
    have hproperty' : Text.sameIgnoringCase pair.1 other.2 = false := by
      rw [Bool.eq_false_iff]
      exact fun hsame => hfresh (Text.sameIgnoringCase_symm hsame)
    have hname : Text.sameIgnoringCase pair.1 name = false := by
      rw [Bool.eq_false_iff]
      exact fun hsame =>
        hapart (Text.sameIgnoringCase_trans hnames (Text.sameIgnoringCase_symm hsame))
    rw [hproperty, hproperty', hname]
  · rw [mappedName_of_unnamed hunnamed]

theorem undisturbed_concat :
    r.Undisturbed (mapping ++ [pair]) ↔ r.Undisturbed mapping ∧
      (r.renamedAtOnce mapping).position? pair.1 = r.position? pair.1 := by
  constructor
  · intro h
    refine ⟨?_, h mapping pair [] rfl⟩
    rintro before other after rfl
    exact h before other (after ++ [pair]) (by simp)
  · rintro ⟨h, hlast⟩ before other after heq
    cases after using List.reverseRecOn with
    | nil =>
        obtain ⟨rfl, hpair⟩ := List.append_inj' heq rfl
        rw [List.singleton_inj.mp hpair] at hlast
        exact hlast
    | append_singleton after last =>
        rw [← List.cons_append, ← List.append_assoc] at heq
        exact h before other after (List.append_inj' heq rfl).1

/-- An undisturbed row is renamed at once. -/
theorem remap_eq_renamedAtOnce (hr : DistinctNames r.columns)
    (hm : DistinctNames (mapping.map (·.1))) (h : r.Undisturbed mapping) :
    r.remap mapping = r.renamedAtOnce mapping := by
  induction mapping using List.reverseRecOn with
  | nil => exact eq_of_cells (fun i => by simp [remap, renamedAtOnce, mappedName])
  | append_singleton mapping pair ih =>
      obtain ⟨hinit, hlast⟩ := undisturbed_concat.mp h
      rw [remap_concat, ih (distinctNames_of_concat hm) hinit]
      exact rename_renamedAtOnce hr hm hlast

/-- Where properties are distinct, only an undisturbed row is renamed at once. -/
theorem undisturbed_of_remap_eq (hr : DistinctNames r.columns)
    (hm : DistinctNames (mapping.map (·.1))) (hp : (mapping.map (·.2)).Nodup)
    (h : r.remap mapping = r.renamedAtOnce mapping) : r.Undisturbed mapping := by
  induction mapping using List.reverseRecOn with
  | nil => exact fun before pair after heq => absurd heq (by simp)
  | append_singleton mapping pair ih =>
      have hinit := remap_eq_of_concat hm hp h
      have hp' : (mapping.map (·.2)).Nodup := by
        rw [List.map_append, List.nodup_append] at hp
        exact hp.1
      refine undisturbed_concat.mpr ⟨ih (distinctNames_of_concat hm) hp' hinit, ?_⟩
      rw [remap_concat, hinit] at h
      exact position?_of_rename_eq hr hm hp h

/-- **Pair by pair is at once exactly in an undisturbed row.**

Whatever the pairs are, values stay in their places and a column that no pair names keeps its
name.  Every other column gets the property of the pair that names it if the row is
undisturbed, and only then where the properties are distinct.  It is undisturbed at least where
no property is what a later pair looks for. -/
theorem remap_atOnce_iff (hr : DistinctNames r.columns)
    (hm : DistinctNames (mapping.map (·.1))) :
    (r.remap mapping).cells.map (·.2) = r.cells.map (·.2) ∧
    (∀ (i : Nat) name v, r.cells[i]? = some (name, v) →
      (∀ pair ∈ mapping, Text.sameIgnoringCase pair.1 name = false) →
      (r.remap mapping).cells[i]? = some (name, v)) ∧
    (r.Undisturbed mapping → r.remap mapping = r.renamedAtOnce mapping) ∧
    ((mapping.map (·.2)).Nodup → r.remap mapping = r.renamedAtOnce mapping →
      r.Undisturbed mapping) ∧
    (mapping.Pairwise (fun earlier later => Text.sameIgnoringCase earlier.2 later.1 = false) →
      r.Undisturbed mapping) :=
  ⟨map_snd_remap r mapping, fun _ _ _ hcell hunnamed => remap_of_unnamed hcell hunnamed,
    remap_eq_renamedAtOnce hr hm, undisturbed_of_remap_eq hr hm, undisturbed_of_pairwise hr hm⟩

/-- A column can take the name of one that is renamed before it. -/
theorem remap_atOnce_iff_freed_name :
    let r : Row := ⟨[("id", .int 1), ("user_name", .text "ann"), ("Email", .text "a@x.io")]⟩
    let mapping := [("user_name", "name"), ("EMAIL", "user_name")]
    DistinctNames r.columns ∧ DistinctNames (mapping.map (·.1)) ∧
      r.remap mapping = r.renamedAtOnce mapping ∧
      (r.remap mapping).columns = ["id", "name", "user_name"] := by
  intro r mapping
  have hr : DistinctNames r.columns := by decide
  have hm : DistinctNames (mapping.map (·.1)) := by decide
  obtain ⟨-, -, hatOnce, -, hundisturbed⟩ := remap_atOnce_iff hr hm
  have hremap : r.remap mapping = r.renamedAtOnce mapping := hatOnce (hundisturbed (by decide))
  refine ⟨hr, hm, hremap, ?_⟩
  rw [hremap]
  rfl

/-- A swap of two columns renames the first one there and back. -/
theorem remap_swap :
    let r : Row := ⟨[("a", .int 1), ("b", .int 2)]⟩
    let mapping := [("a", "b"), ("b", "a")]
    DistinctNames r.columns ∧ DistinctNames (mapping.map (·.1)) ∧
      (r.remap mapping).cells = [("a", .int 1), ("b", .int 2)] ∧
      (r.renamedAtOnce mapping).cells = [("b", .int 1), ("a", .int 2)] :=
  ⟨by decide, by decide, rfl, rfl⟩

end Row

end QueryMethods
