/-
Where the text of conditions is cut.

`segments` cuts before a connector word that an upper-case letter follows, wherever
it meets one.  The whole text is written in pieces, though, and a reader of one piece
would like to know that no cut falls inside it, whatever stands behind it.  The
argument is about the seams: every letter of a connector word but the first is a
lower-case one, and what stands behind a piece is empty or opens with an upper-case
letter, so a connector word never reaches across a seam.  A piece without a connector
word of its own is therefore one segment.
-/
import QueryMethods.MethodName.Reader

namespace QueryMethods

/-- The words that link conditions. -/
def connectorWords : List (List Char) := [andWord, orWord]

/-! ### Beginnings of a text -/

theorem afterPrefix?_eq_some_iff {word s rest : List Char} :
    afterPrefix? word s = some rest ↔ s = word ++ rest := by
  induction word generalizing s with
  | nil => simp [afterPrefix?]
  | cons p ps ih =>
      cases s with
      | nil => simp [afterPrefix?]
      | cons c s =>
          rw [afterPrefix?]
          by_cases h : p = c
          · rw [if_pos h, ih]
            simp [h]
          · rw [if_neg h]
            simp [Ne.symm h]

theorem afterConnector?_eq_some_iff {word s rest : List Char} :
    afterConnector? word s = some rest ↔ s = word ++ rest ∧ opensUpper rest = true := by
  rw [afterConnector?, Option.filter_eq_some_iff, afterPrefix?_eq_some_iff]

theorem opensSegment_iff {s : List Char} :
    opensSegment s = true ↔
      ∃ word ∈ connectorWords, ∃ rest, s = word ++ rest ∧ opensUpper rest = true := by
  simp only [opensSegment, connectorWords, Bool.or_eq_true, Option.isSome_iff_exists,
    afterConnector?_eq_some_iff, List.mem_cons, List.not_mem_nil, or_false, exists_eq_or_imp,
    exists_eq_left]

theorem opensUpper_append {a b : List Char} (h : opensUpper a = true) :
    opensUpper (a ++ b) = true := by
  cases a with
  | nil => simp [opensUpper] at h
  | cons c a => exact h

theorem opensUpper_of_opensSegment {s : List Char} (h : opensSegment s = true) :
    opensUpper s = true := by
  have hwords : ∀ word ∈ connectorWords, opensUpper word = true := by decide
  obtain ⟨word, hword, rest, rfl, -⟩ := opensSegment_iff.mp h
  exact opensUpper_append (hwords word hword)

/-! ### Seams

What stands behind a field, a comparison word or a connector word is nothing at all or
opens with an upper-case letter.
-/

/-- Nothing, or a text that opens with an upper-case letter. -/
def Fresh (s : List Char) : Prop := s = [] ∨ opensUpper s = true

/-- Behind its first letter a connector word has no upper-case letter. -/
theorem opensUpper_of_word_eq {word a b : List Char} (hword : word ∈ connectorWords)
    (h : word = a ++ b) (ha : a ≠ []) : opensUpper b = false := by
  have hlower : ∀ word ∈ connectorWords, word.tail.any isAsciiUpper = false := by decide
  cases a with
  | nil => exact absurd rfl ha
  | cons x a =>
      cases b with
      | nil => rfl
      | cons c b =>
          have hnone := List.any_eq_false.mp (hlower word hword)
          exact Bool.eq_false_iff.mpr (hnone c (by rw [h]; simp))

/-- A connector word that begins in front of a seam ends in front of it. -/
theorem word_within {word t rest after : List Char} (hword : word ∈ connectorWords)
    (hrest : Fresh rest) (ht : t ≠ []) (h : t ++ rest = word ++ after) :
    ∃ inner, t = word ++ inner ∧ after = inner ++ rest := by
  rcases List.append_eq_append_iff.mp h with ⟨cut, hcut, hafter⟩ | ⟨inner, hinner, hafter⟩
  · have hupper : opensUpper cut = false := opensUpper_of_word_eq hword hcut ht
    have hnil : cut = [] := by
      rcases hrest with hnil | hopen
      · rw [hnil] at hafter
        exact (List.append_eq_nil_iff.mp hafter.symm).1
      · cases cut with
        | nil => rfl
        | cons c cut =>
            rw [hafter] at hopen
            simp only [List.cons_append, opensUpper] at hopen hupper
            rw [hopen] at hupper
            exact absurd hupper (by simp)
    subst hnil
    exact ⟨[], by simpa using hcut.symm, by simpa using hafter.symm⟩
  · exact ⟨inner, hinner, hafter⟩

/-- No connector word in the text is followed by an upper-case letter or ends the text. -/
def ConnectorFree (s : List Char) : Prop :=
  ∀ before word after, word ∈ connectorWords → s = before ++ word ++ after →
    after ≠ [] ∧ opensUpper after = false

theorem ConnectorFree.suffix {a b : List Char} (h : ConnectorFree (a ++ b)) :
    ConnectorFree b := by
  intro before word after hword hb
  exact h (a ++ before) word after hword (by rw [hb]; simp)

/-- Texts without connector words stay so when they are written side by side. -/
theorem ConnectorFree.append {a b : List Char} (ha : ConnectorFree a) (hb : ConnectorFree b)
    (hfresh : Fresh b) : ConnectorFree (a ++ b) := by
  intro before word after hword h
  rw [List.append_assoc] at h
  rcases List.append_eq_append_iff.mp h with ⟨mid, hbefore, hrest⟩ | ⟨t, rfl, hrest⟩
  · exact hb mid word after hword (by rw [hrest]; simp)
  · by_cases ht : t = []
    · subst ht
      exact hb [] word after hword (by simpa using hrest.symm)
    · obtain ⟨inner, rfl, rfl⟩ := word_within hword hfresh ht hrest.symm
      obtain ⟨hne, hlow⟩ := ha before word inner hword (by simp)
      cases inner with
      | nil => exact absurd rfl hne
      | cons c inner => exact ⟨by simp, hlow⟩

theorem ConnectorFree.not_opensSegment {t rest : List Char} (h : ConnectorFree t)
    (hrest : Fresh rest) (ht : t ≠ []) : opensSegment (t ++ rest) = false := by
  rw [Bool.eq_false_iff]
  intro hopen
  obtain ⟨word, hword, after, heq, hupper⟩ := opensSegment_iff.mp hopen
  obtain ⟨inner, rfl, rfl⟩ := word_within hword hrest ht heq
  obtain ⟨hne, hlow⟩ := h [] word inner hword (by simp)
  cases inner with
  | nil => exact absurd rfl hne
  | cons c inner =>
      simp only [List.cons_append, opensUpper] at hupper hlow
      rw [hupper] at hlow
      exact absurd hlow (by simp)

/-! ### One more character -/

theorem segments_ne_nil (s : List Char) : segments s ≠ [] := by
  cases s with
  | nil => exact List.cons_ne_nil _ _
  | cons c rest =>
      rw [segments]
      split
      · exact List.cons_ne_nil _ _
      · split
        · exact List.cons_ne_nil _ _
        · exact List.cons_ne_nil _ _

theorem segments_cons {c : Char} {rest segment : List Char} {others : List (List Char)}
    (h : opensSegment rest = false) (hs : segments rest = segment :: others) :
    segments (c :: rest) = (c :: segment) :: others := by
  rw [segments, h, hs]
  simp

theorem segments_cons_of_opens {c : Char} {rest : List Char} (h : opensSegment rest = true) :
    segments (c :: rest) = [c] :: segments rest := by
  rw [segments, if_pos h]

/-- A character in front of a text is a segment of its own, or it lengthens the first one. -/
theorem segments_cons_cases (c : Char) (rest : List Char) :
    (opensSegment rest = true ∧ segments (c :: rest) = [c] :: segments rest) ∨
    (opensSegment rest = false ∧ ∃ first others, segments rest = first :: others ∧
      segments (c :: rest) = (c :: first) :: others) := by
  cases hopen : opensSegment rest with
  | true => exact Or.inl ⟨rfl, segments_cons_of_opens hopen⟩
  | false =>
      obtain ⟨first, others, hcut⟩ := List.exists_cons_of_ne_nil (segments_ne_nil rest)
      exact Or.inr ⟨rfl, first, others, hcut, segments_cons hopen hcut⟩

/-! ### Cutting a text that is written in pieces -/

/-- What may stand behind a segment, and the segments it is cut into. -/
def CutsInto (rest : List Char) (others : List (List Char)) : Prop :=
  (rest = [] ∧ others = []) ∨ (opensSegment rest = true ∧ segments rest = others)

theorem CutsInto.fresh {rest : List Char} {others : List (List Char)}
    (h : CutsInto rest others) : Fresh rest := by
  rcases h with ⟨rfl, -⟩ | ⟨hopen, -⟩
  · exact Or.inl rfl
  · exact Or.inr (opensUpper_of_opensSegment hopen)

theorem segments_singleton {c : Char} {rest : List Char} {others : List (List Char)}
    (h : CutsInto rest others) : segments (c :: rest) = [c] :: others := by
  rcases h with ⟨rfl, rfl⟩ | ⟨hopen, hrest⟩
  · simp [segments, opensSegment, afterConnector?, afterPrefix?, andWord, orWord]
  · rw [segments_cons_of_opens hopen, hrest]

/-- A text without connector words is one segment. -/
theorem segments_append {a rest : List Char} {others : List (List Char)} (ha : a ≠ [])
    (hfree : ConnectorFree a) (hrest : CutsInto rest others) :
    segments (a ++ rest) = a :: others := by
  induction a with
  | nil => exact absurd rfl ha
  | cons c a ih =>
      cases a with
      | nil => exact segments_singleton hrest
      | cons d a =>
          have htail : ConnectorFree (d :: a) := hfree.suffix (a := [c])
          exact segments_cons (htail.not_opensSegment hrest.fresh (by simp))
            (ih (by simp) htail)

/-- A connector word stays with the segment behind it. -/
theorem segments_word_append {word s segment : List Char} {others : List (List Char)}
    (hword : word ∈ connectorWords) (hs : opensSegment s = false)
    (hcut : segments s = segment :: others) :
    segments (word ++ s) = (word ++ segment) :: others := by
  have hlow : ∀ c t, isAsciiUpper c = false → opensSegment (c :: t) = false := by
    intro c t hc
    rw [Bool.eq_false_iff]
    intro hopen
    have hupper : isAsciiUpper c = true := opensUpper_of_opensSegment hopen
    rw [hc] at hupper
    exact absurd hupper (by simp)
  simp only [connectorWords, List.mem_cons, List.not_mem_nil, or_false] at hword
  rcases hword with rfl | rfl
  · exact segments_cons (hlow 'n' _ (by decide))
      (segments_cons (hlow 'd' _ (by decide)) (segments_cons hs hcut))
  · exact segments_cons (hlow 'r' _ (by decide)) (segments_cons hs hcut)

/-! ### The connector of a segment -/

theorem splitConnector_of_not_opensSegment {s : List Char} (h : opensSegment s = false) :
    splitConnector s = (.none, s) := by
  simp only [opensSegment, Bool.or_eq_false_iff, Option.isSome_eq_false_iff,
    Option.isNone_iff_eq_none] at h
  rw [splitConnector, h.1, h.2]

theorem splitConnector_and {s : List Char} (h : opensUpper s = true) :
    splitConnector (andWord ++ s) = (.and, s) := by
  rw [splitConnector, afterConnector?_eq_some_iff.mpr ⟨rfl, h⟩]

theorem splitConnector_or {s : List Char} (h : opensUpper s = true) :
    splitConnector (orWord ++ s) = (.or, s) := by
  have hand : afterConnector? andWord (orWord ++ s) = none := rfl
  rw [splitConnector, hand, afterConnector?_eq_some_iff.mpr ⟨rfl, h⟩]

end QueryMethods
