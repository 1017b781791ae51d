/-
Which names state a restriction.

A name is read by its beginning: `splitOperation_cases` says once which beginnings there are
and what is left of the name behind each.  The text behind `By` is cut into segments that are
never empty, and every such segment states a condition, so conditions are missing only where
there is no text: `readConditions_eq_nil_iff`.

Two beginnings leave more than they read.  `deleteBy` without a text behind it states no
condition, and `findAll` passes over whatever does not continue with `By`.
-/
import QueryMethods.Proofs.MethodName.Segments

namespace QueryMethods

/-! ### Segments that state conditions -/

/-- A text that is not empty is cut into segments that are not empty. -/
theorem ne_nil_of_mem_segments {s : List Char} (hs : s ≠ []) :
    ∀ segment ∈ segments s, segment ≠ [] := by
  induction s with
  | nil => exact absurd rfl hs
  | cons c rest ih =>
      intro segment hsegment
      rcases segments_cons_cases c rest with ⟨hopen, hcut⟩ | ⟨-, first, others, hrest, hcut⟩
      · rw [hcut] at hsegment
        have hne : rest ≠ [] := by
          rintro rfl
          exact absurd hopen (by decide)
        rcases List.mem_cons.mp hsegment with rfl | hlater
        · exact List.cons_ne_nil _ _
        · exact ih hne segment hlater
      · rw [hcut] at hsegment
        rcases List.mem_cons.mp hsegment with rfl | hlater
        · exact List.cons_ne_nil _ _
        · by_cases hne : rest = []
          · -- The empty text is one segment, so there is no later one.
            subst hne
            rw [segments] at hrest
            rw [← (List.cons.inj hrest).2] at hlater
            exact absurd hlater (by simp)
          · refine ih hne segment ?_
            rw [hrest]
            exact List.mem_cons_of_mem first hlater

/-- What a connector leaves of a segment is not empty. -/
theorem splitConnector_ne_nil {segment : List Char} (h : segment ≠ []) :
    (splitConnector segment).2 ≠ [] := by
  have hbehind : ∀ {word rest}, afterConnector? word segment = some rest → rest ≠ [] := by
    rintro word rest hafter rfl
    exact absurd (afterConnector?_eq_some_iff.mp hafter).2 (by simp [opensUpper])
  rw [splitConnector]
  split
  · rename_i rest hand
    exact hbehind hand
  · split
    · rename_i rest hor
      exact hbehind hor
    · exact h

/-- What is read off a segment that is not empty. -/
theorem readSegment_of_ne_nil {segment : List Char} (h : segment ≠ []) :
    readSegment segment =
      some ⟨Text.lowerFirst (String.ofList (splitComparison (splitConnector segment).2).1),
        (splitComparison (splitConnector segment).2).2, (splitConnector segment).1⟩ := by
  have hrest : (splitConnector segment).2.isEmpty = false :=
    List.isEmpty_eq_false_iff.mpr (splitConnector_ne_nil h)
  simp [readSegment, hrest]

/-- Every segment that is not empty states a condition. -/
theorem exists_readSegment {segment : List Char} (h : segment ≠ []) :
    ∃ condition, readSegment segment = some condition :=
  ⟨_, readSegment_of_ne_nil h⟩

/-- **Only the empty text states no condition.** -/
theorem readConditions_eq_nil_iff {s : List Char} : readConditions s = [] ↔ s = [] := by
  constructor
  · intro hnone
    refine Decidable.byContradiction (fun hs => ?_)
    obtain ⟨segment, others, hcut⟩ := List.exists_cons_of_ne_nil (segments_ne_nil s)
    obtain ⟨condition, hread⟩ :=
      exists_readSegment (ne_nil_of_mem_segments hs segment (by simp [hcut]))
    rw [readConditions, hcut, List.filterMap_cons, hread] at hnone
    exact absurd hnone (List.cons_ne_nil _ _)
  · rintro rfl
    rfl

/-! ### The beginnings of names -/

/-- What a name begins with, and what is read of the rest. -/
theorem splitOperation_cases (name : List Char) :
    (∃ rest, name = "findAll".toList ++ rest ∧
      splitOperation name = (.findAll, afterPrefix? "By".toList rest)) ∨
    (∃ word operation rest, (word, operation) ∈ conditionalOperations ∧
      name = word.toList ++ rest ∧ splitOperation name = (operation, some rest)) ∨
    (∃ word operation rest, (word, operation) ∈ plainOperations ∧
      name = word.toList ++ rest ∧ splitOperation name = (operation, none)) ∨
    splitOperation name = (.unknown, none) := by
  cases hall : afterPrefix? "findAll".toList name with
  | some rest => exact Or.inl ⟨rest, afterPrefix?_eq_some_iff.mp hall, by rw [splitOperation, hall]⟩
  | none =>
      refine Or.inr ?_
      rw [splitOperation, hall]
      simp only
      split
      · rename_i found hconditional
        obtain ⟨⟨word, operation⟩, hmem, hfound⟩ := List.exists_of_findSome?_eq_some hconditional
        obtain ⟨rest, hrest, rfl⟩ := Option.map_eq_some_iff.mp hfound
        exact Or.inl ⟨word, operation, rest, hmem, afterPrefix?_eq_some_iff.mp hrest, rfl⟩
      · refine Or.inr ?_
        split
        · rename_i word operation hplain
          have hbegins := List.find?_some hplain
          obtain ⟨rest, hrest⟩ := Option.isSome_iff_exists.mp hbegins
          exact Or.inl ⟨word, operation, rest, List.mem_of_find?_eq_some hplain,
            afterPrefix?_eq_some_iff.mp hrest, rfl⟩
        · exact Or.inr rfl

/-- Conditions must follow where the operation is one of those that need them. -/
theorem splitOperation_of_conditional {word : String} {operation : Operation}
    (hword : (word, operation) ∈ conditionalOperations) {name : List Char}
    (h : (splitOperation name).1 = operation) :
    ∃ rest, name = word.toList ++ rest ∧ splitOperation name = (operation, some rest) := by
  have hplain : ∀ found ∈ conditionalOperations, found.2 ≠ .findAll ∧ found.2 ≠ .unknown ∧
      ∀ other ∈ plainOperations, found.2 ≠ other.2 := by decide
  have hinjective : ∀ found ∈ conditionalOperations, ∀ other ∈ conditionalOperations,
      found.2 = other.2 → found = other := by decide
  obtain ⟨hall, hunknown, hothers⟩ := hplain _ hword
  rcases splitOperation_cases name with ⟨rest, -, hsplit⟩ | ⟨word', operation', rest, hmem, hname,
    hsplit⟩ | ⟨word', operation', rest, hmem, -, hsplit⟩ | hsplit
  · rw [hsplit] at h
    exact absurd h.symm hall
  · rw [hsplit] at h
    obtain ⟨rfl, rfl⟩ := Prod.mk.inj (hinjective _ hmem _ hword h)
    exact ⟨rest, hname, hsplit⟩
  · rw [hsplit] at h
    exact absurd h.symm (hothers _ hmem)
  · rw [hsplit] at h
    exact absurd h.symm hunknown

theorem splitOperation_findAll_append (rest : List Char) :
    splitOperation ("findAll".toList ++ rest) = (.findAll, afterPrefix? "By".toList rest) := rfl

/-- A name finds every row as soon as it begins with the word for it. -/
theorem splitOperation_eq_findAll_iff {name : List Char} :
    (splitOperation name).1 = .findAll ↔ ∃ rest, name = "findAll".toList ++ rest := by
  constructor
  · intro h
    have hconditional : ∀ found ∈ conditionalOperations, found.2 ≠ .findAll := by decide
    have hplain : ∀ found ∈ plainOperations, found.2 ≠ .findAll := by decide
    rcases splitOperation_cases name with ⟨rest, hname, -⟩ | ⟨word, operation, rest, hmem, -,
      hsplit⟩ | ⟨word, operation, rest, hmem, -, hsplit⟩ | hsplit
    · exact ⟨rest, hname⟩
    · rw [hsplit] at h
      exact absurd h (hconditional _ hmem)
    · rw [hsplit] at h
      exact absurd h (hplain _ hmem)
    · rw [hsplit] at h
      exact absurd h (by simp)
  · rintro ⟨rest, rfl⟩
    rw [splitOperation_findAll_append]

/-! ### Whole names -/

namespace MethodName

/-- A text that begins with a word is the word and some text. -/
theorem exists_eq_append_iff {word name : String} :
    (∃ rest, name.toList = word.toList ++ rest) ↔ ∃ rest, name = word ++ rest := by
  constructor
  · rintro ⟨rest, hname⟩
    refine ⟨String.ofList rest, String.toList_inj.mp ?_⟩
    rw [hname, String.toList_append, String.toList_ofList]
  · rintro ⟨rest, rfl⟩
    exact ⟨rest.toList, String.toList_append⟩

theorem operation_ofText (name : String) :
    (ofText name).operation = (splitOperation name.toList).1 := rfl

theorem conditions_ofText (name : String) :
    (ofText name).conditions = ((splitOperation name.toList).2.map readConditions).getD [] := rfl

theorem operation_ofText_eq_findAll_iff (name : String) :
    (ofText name).operation = .findAll ↔ ∃ rest, name = "findAll" ++ rest := by
  rw [operation_ofText, splitOperation_eq_findAll_iff, exists_eq_append_iff]

/-- A name that finds every row states no condition unless `By` and some text follow. -/
theorem conditions_ofText_findAll_eq_nil_iff (rest : String) :
    (ofText ("findAll" ++ rest)).conditions = [] ↔ ∀ stated, rest = "By" ++ stated → stated = "" := by
  rw [conditions_ofText, String.toList_append, splitOperation_findAll_append]
  cases hby : afterPrefix? "By".toList rest.toList with
  | none =>
      refine iff_of_true rfl (fun stated hstated => ?_)
      rw [afterPrefix?_eq_some_iff.mpr (hstated ▸ String.toList_append)] at hby
      exact absurd hby (by simp)
  | some behind =>
      obtain ⟨stated, rfl⟩ : ∃ stated, rest = "By" ++ stated :=
        exists_eq_append_iff.mp ⟨behind, afterPrefix?_eq_some_iff.mp hby⟩
      have hbehind : stated.toList = behind := by
        rw [afterPrefix?_eq_some_iff.mpr String.toList_append] at hby
        exact Option.some.inj hby
      rw [Option.map_some, Option.getD_some, readConditions_eq_nil_iff, ← hbehind,
        String.toList_eq_nil_iff]
      constructor
      · rintro rfl other hother
        exact ((String.append_right_inj "By").mp hother).symm
      · intro hempty
        exact hempty stated rfl

/-- A name that deletes begins with the word for it, and states conditions as soon as a text
follows. -/
theorem exists_of_operation_eq_delete {name : String} (h : (ofText name).operation = .delete) :
    ∃ stated, name = "deleteBy" ++ stated ∧
      ((ofText name).conditions = [] ↔ stated = "") := by
  have hword : ("deleteBy", Operation.delete) ∈ conditionalOperations := by decide
  obtain ⟨rest, hname, hsplit⟩ := splitOperation_of_conditional hword h
  refine ⟨String.ofList rest, ?_, ?_⟩
  · rw [← String.toList_inj, hname, String.toList_append, String.toList_ofList (l := rest)]
  · rw [conditions_ofText, hsplit, Option.map_some, Option.getD_some, readConditions_eq_nil_iff,
      ← String.toList_eq_nil_iff, String.toList_ofList]

end MethodName

end QueryMethods
