/-
Where segments start, and what each of them says.

Cutting loses nothing of a text: the segments make it up again (`flatten_segments`), and none
is empty.  Behind the front of the text a segment starts exactly where a connector word stands
that an upper-case letter follows.  `segments` decides about every place by what follows it
alone, so two inductions on the text are enough: every segment but the first begins at such a
place (`opensSegment_of_earlier`), and none lies inside a segment (`not_opensSegment_inside`).

Every segment states one condition, and the segment is that condition written out: the word of
its connector, a field that is not empty, and the longest comparison word that the rest ends
with.  `Spells` has a field for each of these parts, and `spells_of_readSegment` takes them from
the two steps of the reading, one for the front of a segment and one for its end.
-/
import Mathlib.Data.List.Forall2
import QueryMethods.Proofs.MethodName.Restrictions
import QueryMethods.Proofs.MethodName.Writing
import QueryMethods.Proofs.Sql.Markers

namespace QueryMethods

/-! ### Where segments start -/

/-- The segments of a text make it up again. -/
theorem flatten_segments (s : List Char) : (segments s).flatten = s := by
  induction s with
  | nil => rfl
  | cons c rest ih =>
      rcases segments_cons_cases c rest with ⟨-, hcut⟩ | ⟨-, first, others, hrest, hcut⟩
      · rw [hcut, List.flatten_cons, ih, List.singleton_append]
      · rw [hrest, List.flatten_cons] at ih
        rw [hcut, List.flatten_cons, List.cons_append, ih]

/-- Some segment of the text starts behind this part of it. -/
def StartsBehind (s before : List Char) : Prop :=
  ∃ earlier segment later, segments s = earlier ++ segment :: later ∧ earlier.flatten = before

/-- Inside a segment no other may begin, whatever follows. -/
theorem not_opensSegment_inside {s a b : List Char} {later : List (List Char)} (ha : a ≠ [])
    (hb : b ≠ []) : ∀ {earlier : List (List Char)}, segments s = earlier ++ (a ++ b) :: later →
      opensSegment (b ++ later.flatten) = false := by
  induction s generalizing a with
  | nil =>
      intro earlier hcut
      exfalso
      cases earlier with
      | nil => exact ha (List.append_eq_nil_iff.mp (List.cons.inj hcut).1.symm).1
      | cons head earlier => simp [segments] at hcut
  | cons c rest ih =>
      intro earlier hcut
      rcases segments_cons_cases c rest with ⟨-, halone⟩ | ⟨hopen, first, others, hrest, hjoined⟩
      · rw [halone] at hcut
        cases earlier with
        | nil =>
            have hlength := congrArg List.length (List.cons.inj hcut).1
            have hpos := List.length_pos_of_ne_nil ha
            have hpos' := List.length_pos_of_ne_nil hb
            simp only [List.length_singleton, List.length_append] at hlength
            omega
        | cons head earlier => exact ih ha (List.cons.inj hcut).2
      · rw [hjoined] at hcut
        cases earlier with
        | nil =>
            obtain ⟨hfirst, rfl⟩ := List.cons.inj hcut
            cases a with
            | nil => exact absurd rfl ha
            | cons x a =>
                have hsegment : first = a ++ b := (List.cons.inj hfirst).2
                by_cases hlast : a = []
                · -- The segment goes on right behind its first letter.
                  rw [hlast, List.nil_append] at hsegment
                  have htext := flatten_segments rest
                  rw [hrest, List.flatten_cons, hsegment] at htext
                  rw [htext]
                  exact hopen
                · have hfront : segments rest = [] ++ (a ++ b) :: others := by
                    rw [hrest, hsegment]
                    rfl
                  exact ih hlast hfront
        | cons head earlier =>
            obtain ⟨-, hothers⟩ := List.cons.inj hcut
            have hbehind : segments rest = (first :: earlier) ++ (a ++ b) :: later := by
              rw [hrest, hothers]
              rfl
            exact ih ha hbehind

/-- Every segment but the first begins where one may begin. -/
theorem opensSegment_of_earlier {s segment : List Char} {later : List (List Char)} :
    ∀ {earlier : List (List Char)}, earlier ≠ [] →
      segments s = earlier ++ segment :: later →
      opensSegment (segment ++ later.flatten) = true := by
  induction s with
  | nil =>
      intro earlier hne hcut
      cases earlier with
      | nil => exact absurd rfl hne
      | cons head earlier => simp [segments] at hcut
  | cons c rest ih =>
      intro earlier hne hcut
      cases earlier with
      | nil => exact absurd rfl hne
      | cons head earlier =>
          rcases segments_cons_cases c rest with ⟨hopen, halone⟩ |
            ⟨-, first, others, hrest, hjoined⟩
          · rw [halone] at hcut
            have hlater : segments rest = earlier ++ segment :: later := (List.cons.inj hcut).2
            by_cases hsecond : earlier = []
            · have htext := flatten_segments rest
              rw [hlater, hsecond, List.nil_append, List.flatten_cons] at htext
              rw [htext]
              exact hopen
            · exact ih hsecond hlater
          · rw [hjoined] at hcut
            obtain ⟨-, hothers⟩ := List.cons.inj hcut
            exact ih (List.cons_ne_nil first earlier) (by rw [hrest, hothers]; rfl)

/-- **Behind the front of a text a segment starts exactly where one may begin.** -/
theorem startsBehind_iff {before after : List Char} (hne : before ≠ []) :
    StartsBehind (before ++ after) before ↔ opensSegment after = true := by
  constructor
  · rintro ⟨earlier, segment, later, hcut, rfl⟩
    have hearlier : earlier ≠ [] := by
      rintro rfl
      exact hne rfl
    have htext := flatten_segments (earlier.flatten ++ after)
    rw [hcut, List.flatten_append, List.append_cancel_left_eq] at htext
    rw [← htext]
    exact opensSegment_of_earlier hearlier hcut
  · intro hopen
    rcases List.flatten_eq_append_iff.mp (flatten_segments (before ++ after)) with
      ⟨earlier, later, hcut, rfl, rfl⟩ | ⟨earlier, a, c, b, later, hcut, rfl, rfl⟩
    · cases later with
      | nil => exact absurd hopen (by decide)
      | cons segment later => exact ⟨earlier, segment, later, hcut, rfl⟩
    · by_cases ha : a = []
      · subst ha
        exact ⟨earlier, c :: b, later, hcut, (List.append_nil _).symm⟩
      · rw [not_opensSegment_inside ha (List.cons_ne_nil c b) hcut] at hopen
        exact absurd hopen (by simp)

theorem opensSegment_iff_cons {s : List Char} :
    opensSegment s = true ↔
      ∃ word ∈ connectorWords, ∃ c after, s = word ++ c :: after ∧ isAsciiUpper c = true := by
  rw [opensSegment_iff]
  constructor
  · rintro ⟨word, hword, rest, hs, hup⟩
    cases rest with
    | nil => simp [opensUpper] at hup
    | cons c after => exact ⟨word, hword, c, after, hs, hup⟩
  · rintro ⟨word, hword, c, after, hs, hup⟩
    exact ⟨word, hword, c :: after, hs, hup⟩

/-- Some segment starts at a byte position: what stands before it takes as many bytes. -/
def SegmentStartsAt (text : String) (position : Nat) : Prop :=
  ∃ before, StartsBehind text.toList before ∧ (String.ofList before).utf8ByteSize = position

/-- A segment starts at a byte position that is not the first exactly where a connector word and
an upper-case letter stand. -/
theorem segmentStartsAt_iff {text : String} {position : Nat} (hposition : 0 < position) :
    SegmentStartsAt text position ↔
      ∃ before, ∃ word ∈ connectorWords, ∃ c after,
        SplitsAt text position before (word ++ c :: after) ∧ isAsciiUpper c = true := by
  have hne : ∀ before : List Char, (String.ofList before).utf8ByteSize = position →
      before ≠ [] := by
    rintro before hsize rfl
    rw [← hsize] at hposition
    exact absurd hposition (by decide)
  constructor
  · rintro ⟨before, hstarts, hsize⟩
    have hsplit : ∃ after, text.toList = before ++ after := by
      obtain ⟨earlier, segment, later, hcut, rfl⟩ := hstarts
      refine ⟨(segment :: later).flatten, ?_⟩
      rw [← List.flatten_append, ← hcut, flatten_segments]
    obtain ⟨after, htext⟩ := hsplit
    rw [htext, startsBehind_iff (hne before hsize), opensSegment_iff_cons] at hstarts
    obtain ⟨word, hword, c, rest, rfl, hup⟩ := hstarts
    exact ⟨before, word, hword, c, rest, ⟨htext, hsize⟩, hup⟩
  · rintro ⟨before, word, hword, c, after, ⟨htext, hsize⟩, hup⟩
    refine ⟨before, ?_, hsize⟩
    rw [htext, startsBehind_iff (hne before hsize), opensSegment_iff_cons]
    exact ⟨word, hword, c, after, rfl, hup⟩

/-! ### The front of a segment -/

/-- The connector words are the words of the connectors that link. -/
theorem mem_connectorWords_iff {word : List Char} :
    word ∈ connectorWords ↔ ∃ connector : Connector, connector ≠ .none ∧ word = connector.word := by
  constructor
  · intro hword
    simp only [connectorWords, List.mem_cons, List.not_mem_nil, or_false] at hword
    rcases hword with rfl | rfl
    · exact ⟨.and, by decide, rfl⟩
    · exact ⟨.or, by decide, rfl⟩
  · rintro ⟨connector, hlinks, rfl⟩
    cases connector with
    | and => exact List.mem_cons_self
    | or => exact List.mem_cons_of_mem _ List.mem_cons_self
    | none => exact absurd rfl hlinks

theorem splitConnector_word_append {connector : Connector} (hlinks : connector ≠ .none)
    {rest : List Char} (hup : opensUpper rest = true) :
    splitConnector (connector.word ++ rest) = (connector, rest) := by
  cases connector with
  | and => exact splitConnector_and hup
  | or => exact splitConnector_or hup
  | none => exact absurd rfl hlinks

/-- A segment is the word of its connector and the rest.  The rest begins with an upper-case
letter if there is a word, and without one the segment does not open with such a word. -/
theorem splitConnector_spec (segment : List Char) :
    segment = (splitConnector segment).1.word ++ (splitConnector segment).2 ∧
      ((splitConnector segment).1 ≠ .none → opensUpper (splitConnector segment).2 = true) ∧
      ((splitConnector segment).1 = .none → opensSegment segment = false) := by
  cases hopen : opensSegment segment with
  | true =>
      obtain ⟨word, hword, rest, rfl, hup⟩ := opensSegment_iff.mp hopen
      obtain ⟨connector, hlinks, rfl⟩ := mem_connectorWords_iff.mp hword
      rw [splitConnector_word_append hlinks hup]
      exact ⟨rfl, fun _ => hup, fun hnone => absurd hnone hlinks⟩
  | false =>
      rw [splitConnector_of_not_opensSegment hopen]
      exact ⟨rfl, fun hlinks => absurd rfl hlinks, fun _ => rfl⟩

/-! ### The end of a segment -/

/-- The text is a field that is not empty and the word of a comparison behind it. -/
def EndsInWord (s : List Char) (comparison : Comparison) : Prop :=
  ∃ field, field ≠ [] ∧ s = field ++ comparison.keyword.toList

theorem endsWithComparison_iff_endsInWord {s : List Char} {comparison : Comparison} :
    endsWithComparison s comparison = true ↔ EndsInWord s comparison := by
  rw [endsWithComparison_iff]
  constructor
  · rintro ⟨hlength, field, rfl⟩
    refine ⟨field, ?_, rfl⟩
    rintro rfl
    simp at hlength
  · rintro ⟨field, hne, rfl⟩
    refine ⟨?_, field, rfl⟩
    have hpos : 0 < field.length := List.length_pos_of_ne_nil hne
    rw [List.length_append]
    omega

/-- The comparison that a text ends with, and its word: the longest one, or equality without a
word where the text ends with none. -/
inductive LongestWord (s : List Char) : Comparison → List Char → Prop
  | written (comparison : Comparison) (ends : EndsInWord s comparison)
      (longest : ∀ other, EndsInWord s other →
        other.keyword.length ≤ comparison.keyword.length) :
      LongestWord s comparison comparison.keyword.toList
  | left_out (none_ends : ∀ other, ¬EndsInWord s other) : LongestWord s .equal []

/-- The end of a segment is a field and the longest comparison word behind it. -/
theorem splitComparison_spec {s : List Char} (hs : s ≠ []) :
    ∃ word, s = (splitComparison s).1 ++ word ∧ (splitComparison s).1 ≠ [] ∧
      LongestWord s (splitComparison s).2 word := by
  cases hlongest : longestComparison? s with
  | none =>
      rw [splitComparison_of_none hlongest]
      refine ⟨[], (List.append_nil s).symm, hs, .left_out (fun other hother => ?_)⟩
      have hends := longestComparison?_eq_none_iff.mp hlongest other
      rw [endsWithComparison_iff_endsInWord.mpr hother] at hends
      exact absurd hends (by simp)
  | some comparison =>
      obtain ⟨hends, hmax⟩ := longestComparison?_eq_some_iff.mp hlongest
      obtain ⟨field, hfield, rfl⟩ := endsWithComparison_iff_endsInWord.mp hends
      rw [splitComparison_append hlongest]
      refine ⟨comparison.keyword.toList, rfl, hfield, .written comparison ⟨field, hfield, rfl⟩ ?_⟩
      intro other hother
      exact hmax other (endsWithComparison_iff_endsInWord.mpr hother)

/-! ### Whole segments -/

/-- A segment spells a condition: the word of its connector, a field, and a comparison word. -/
structure Spells (segment : List Char) (condition : Condition) (field word : List Char) :
    Prop where
  text : segment = condition.connector.word ++ (field ++ word)
  field_ne : field ≠ []
  field_eq : condition.field = Text.lowerFirst (String.ofList field)
  /-- A connector word counts as one before an upper-case letter. -/
  linked : condition.connector ≠ .none → opensUpper (field ++ word) = true
  unlinked : condition.connector = .none → opensSegment segment = false
  comparison : LongestWord (field ++ word) condition.comparison word

theorem ne_nil_of_readSegment {segment : List Char} {condition : Condition}
    (h : readSegment segment = some condition) : segment ≠ [] := by
  rintro rfl
  exact Option.some_ne_none _ h.symm

/-- Every segment spells the condition that is read off it. -/
theorem spells_of_readSegment {segment : List Char} {condition : Condition}
    (h : readSegment segment = some condition) :
    ∃ field word, Spells segment condition field word := by
  have hsegment : segment ≠ [] := ne_nil_of_readSegment h
  rw [readSegment_of_ne_nil hsegment, Option.some.injEq] at h
  subst h
  obtain ⟨htext, hlinked, hunlinked⟩ := splitConnector_spec segment
  obtain ⟨word, hword, hfield, hlongest⟩ :=
    splitComparison_spec (splitConnector_ne_nil hsegment)
  refine ⟨(splitComparison (splitConnector segment).2).1, word, ?_, hfield, rfl, ?_, hunlinked, ?_⟩
  · rw [← hword]
    exact htext
  · rw [← hword]
    exact hlinked
  · rw [← hword]
    exact hlongest

/-- Segments and their conditions go side by side. -/
theorem forall₂_readSegment {parts : List (List Char)} (h : ∀ segment ∈ parts, segment ≠ []) :
    List.Forall₂ (fun segment condition => readSegment segment = some condition) parts
      (parts.filterMap readSegment) := by
  induction parts with
  | nil => exact List.Forall₂.nil
  | cons segment parts ih =>
      obtain ⟨condition, hread⟩ := exists_readSegment (h segment List.mem_cons_self)
      rw [List.filterMap_cons, hread]
      exact List.Forall₂.cons hread (ih (fun part hpart => h part (List.mem_cons_of_mem _ hpart)))

/-- **A text is cut before the connector words that an upper-case letter follows, and nowhere
else; each segment spells one condition.** -/
theorem segments_spell_conditions {text : String} (h : text ≠ "") :
    (segments text.toList).flatten = text.toList ∧
    (∀ segment ∈ segments text.toList, segment ≠ []) ∧
    (∀ position, 0 < position → (SegmentStartsAt text position ↔
      ∃ before, ∃ word ∈ connectorWords, ∃ c after,
        SplitsAt text position before (word ++ c :: after) ∧ isAsciiUpper c = true)) ∧
    List.Forall₂ (fun segment condition => ∃ field word, Spells segment condition field word)
      (segments text.toList) (readConditions text.toList) := by
  have hne : ∀ segment ∈ segments text.toList, segment ≠ [] :=
    ne_nil_of_mem_segments (fun hnil => h (String.toList_eq_nil_iff.mp hnil))
  refine ⟨flatten_segments _, hne, fun position hposition => segmentStartsAt_iff hposition, ?_⟩
  exact (forall₂_readSegment hne).imp (fun _ _ hread => spells_of_readSegment hread)

/-- Two connector words side by side open a segment each, and the first of them is all of its
segment; bytes are counted where a letter takes two of them. -/
theorem segments_spell_conditions_side_by_side :
    let text := "ÉclairAndOrOrderNotIn"
    text ≠ "" ∧
      segments text.toList = ["Éclair".toList, "And".toList, "OrOrderNotIn".toList] ∧
      readConditions text.toList =
        [⟨"éclair", .equal, .none⟩, ⟨"and", .equal, .none⟩, ⟨"order", .notIn, .or⟩] ∧
      SegmentStartsAt text 10 ∧
      ∃ field word, Spells "OrOrderNotIn".toList ⟨"order", .notIn, .or⟩ field word := by
  intro text
  have htext : text ≠ "" := by decide
  have hcut : segments text.toList =
      ["Éclair".toList, "And".toList, "OrOrderNotIn".toList] := by decide +kernel
  have hread : readConditions text.toList =
      [⟨"éclair", .equal, .none⟩, ⟨"and", .equal, .none⟩, ⟨"order", .notIn, .or⟩] := by
    decide +kernel
  obtain ⟨-, -, hstarts, hspell⟩ := segments_spell_conditions htext
  have htenth : SegmentStartsAt text 10 := by
    refine (hstarts 10 (by decide)).mpr ?_
    refine ⟨"ÉclairAnd".toList, orWord, by decide, 'O', "rderNotIn".toList, ?_, by decide⟩
    exact ⟨by decide, by decide⟩
  rw [hcut, hread] at hspell
  obtain _ | ⟨-, _ | ⟨-, _ | ⟨hthird, -⟩⟩⟩ := hspell
  exact ⟨htext, hcut, hread, htenth, hthird⟩

end QueryMethods
