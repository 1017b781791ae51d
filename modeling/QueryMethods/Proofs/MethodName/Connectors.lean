/-
Which conditions get a connector.

Names are meant to be linked well: nothing links the first condition, and each later one has the
connector of the word it was cut at.  Cutting and taking the word off are two steps, though, and
they ask for different things.  A segment may begin at a connector word that an upper-case letter
of the text follows; the word is taken off if the upper-case letter belongs to the segment, and
from any segment, the first one included.

The two differ where a connector word stands directly before another place to cut: then the word
is all of its segment, and it is read as a field.  So the first condition is linked to nothing as
long as each connector word at the very start stands in that place, and a later one has its
connector as long as none does; `wellLinked_iff` says both at once.
-/
import QueryMethods.Proofs.MethodName.Boundaries

namespace QueryMethods

/-- Nothing links the first condition, and a connector each of the others. -/
def WellLinked : List Condition → Prop
  | [] => True
  | first :: others => first.connector = .none ∧ ∀ c ∈ others, c.connector ≠ .none

instance : ∀ conditions : List Condition, Decidable (WellLinked conditions)
  | [] => isTrue trivial
  | _ :: _ => inferInstanceAs (Decidable (_ ∧ _))

/-- A connector word that an upper-case letter follows, and what stands around the word. -/
structure LinksAt (s before word rest : List Char) : Prop where
  text : s = before ++ (word ++ rest)
  mem : word ∈ connectorWords
  upper : opensUpper rest = true

theorem LinksAt.opensSegment {s before word rest : List Char} (h : LinksAt s before word rest) :
    opensSegment (word ++ rest) = true :=
  opensSegment_iff.mpr ⟨word, h.mem, rest, rfl, h.upper⟩

/-! ### The connector of a segment -/

/-- A condition has a connector exactly where its segment may be cut off on its own. -/
theorem connector_eq_none_iff {segment : List Char} {condition : Condition}
    (h : readSegment segment = some condition) :
    condition.connector = .none ↔ opensSegment segment = false := by
  obtain ⟨field, word, hspells⟩ := spells_of_readSegment h
  constructor
  · exact hspells.unlinked
  · intro hopen
    refine Decidable.byContradiction (fun hlinks => ?_)
    have hmem : condition.connector.word ∈ connectorWords :=
      mem_connectorWords_iff.mpr ⟨condition.connector, hlinks, rfl⟩
    rw [opensSegment_iff.mpr ⟨_, hmem, field ++ word, hspells.text, hspells.linked hlinks⟩] at hopen
    exact absurd hopen (by simp)

theorem connector_of_word_append {connector : Connector} (hlinks : connector ≠ .none)
    {inner : List Char} (hup : opensUpper inner = true) {condition : Condition}
    (h : readSegment (connector.word ++ inner) = some condition) :
    condition.connector = connector := by
  rw [readSegment_of_ne_nil (ne_nil_of_readSegment h), splitConnector_word_append hlinks hup,
    Option.some.injEq] at h
  rw [← h]

/-- A connector word on its own opens no segment. -/
theorem not_opensSegment_word {word : List Char} (hword : word ∈ connectorWords) :
    opensSegment word = false := by
  have hall : ∀ word ∈ connectorWords, opensSegment word = false := by decide
  exact hall word hword

/-! ### The places where segments are cut -/

section

variable {s segment : List Char} {earlier later : List (List Char)}

theorem text_of_cut (hcut : segments s = earlier ++ segment :: later) :
    s = earlier.flatten ++ (segment ++ later.flatten) := by
  rw [← List.flatten_cons, ← List.flatten_append, ← hcut, flatten_segments]

/-- Behind a segment the text ends, or another segment begins. -/
theorem flatten_later_cases (hcut : segments s = earlier ++ segment :: later) :
    later.flatten = [] ∨ opensSegment later.flatten = true := by
  cases later with
  | nil => exact Or.inl rfl
  | cons next later =>
      have hnext : segments s = (earlier ++ [segment]) ++ next :: later := by
        rw [hcut, List.append_assoc, List.singleton_append]
      exact Or.inr (opensSegment_of_earlier (by simp) hnext)

theorem fresh_flatten_later (hcut : segments s = earlier ++ segment :: later) :
    Fresh later.flatten := by
  rcases flatten_later_cases hcut with hnil | hopen
  · exact Or.inl hnil
  · exact Or.inr (opensUpper_of_opensSegment hopen)

/-- A connector word at the start of a segment belongs to it, and the segment is nothing else
exactly where another one begins right behind the word. -/
theorem segment_of_linksAt {word rest : List Char} (hsegment : segment ≠ [])
    (hcut : segments s = earlier ++ segment :: later)
    (hlink : LinksAt s earlier.flatten word rest) :
    ∃ inner, segment = word ++ inner ∧ rest = inner ++ later.flatten ∧
      (inner = [] ↔ opensSegment rest = true) := by
  have htext : segment ++ later.flatten = word ++ rest := by
    rw [← List.append_cancel_left_eq earlier.flatten, ← text_of_cut hcut, hlink.text]
  obtain ⟨inner, rfl, rfl⟩ := word_within hlink.mem (fresh_flatten_later hcut) hsegment htext
  refine ⟨inner, rfl, rfl, ?_⟩
  constructor
  · rintro rfl
    rcases flatten_later_cases hcut with hnil | hopen
    · have hup := hlink.upper
      rw [hnil] at hup
      simp [opensUpper] at hup
    · exact hopen
  · intro hopen
    refine Decidable.byContradiction (fun hinner => ?_)
    have hword : word ≠ [] := by
      have hall : ∀ word ∈ connectorWords, word ≠ [] := by decide
      exact hall word hlink.mem
    rw [not_opensSegment_inside hword hinner hcut] at hopen
    exact absurd hopen (by simp)

/-- **A condition goes without the connector of its segment exactly where another segment begins
right behind the connector word.** -/
theorem connector_of_linksAt {word rest : List Char} {condition : Condition}
    (hcut : segments s = earlier ++ segment :: later)
    (hread : readSegment segment = some condition)
    (hlink : LinksAt s earlier.flatten word rest) :
    condition.connector = .none ↔ opensSegment rest = true := by
  obtain ⟨inner, rfl, rfl, hinner⟩ := segment_of_linksAt (ne_nil_of_readSegment hread) hcut hlink
  rw [connector_eq_none_iff hread, ← hinner]
  constructor
  · intro hclosed
    refine Decidable.byContradiction (fun hne => ?_)
    have hup : opensUpper inner = true := by
      cases inner with
      | nil => exact absurd rfl hne
      | cons c inner => exact hlink.upper
    rw [opensSegment_iff.mpr ⟨word, hlink.mem, inner, rfl, hup⟩] at hclosed
    exact absurd hclosed (by simp)
  · rintro rfl
    rw [List.append_nil]
    exact not_opensSegment_word hlink.mem

/-- Every segment but the first begins at a connector word. -/
theorem exists_linksAt_of_earlier (hearlier : earlier ≠ [])
    (hcut : segments s = earlier ++ segment :: later) :
    ∃ word rest, LinksAt s earlier.flatten word rest := by
  obtain ⟨word, hword, rest, htext, hup⟩ :=
    opensSegment_iff.mp (opensSegment_of_earlier hearlier hcut)
  exact ⟨word, rest, by rw [← htext]; exact text_of_cut hcut, hword, hup⟩

end

/-! ### The conditions of a text -/

/-- The condition of a segment is linked as the text was cut: by the connector of the word in
front, unless the word is all there is. -/
def LinkedAsCut (segment : List Char) (condition : Condition) : Prop :=
  ∃ connector rest, connector ≠ Connector.none ∧ segment = connector.word ++ rest ∧
    ((rest ≠ [] ∧ condition.connector = connector) ∨
      (rest = [] ∧ condition.connector = .none))

theorem linkedAsCut_of_earlier {s segment : List Char} {earlier later : List (List Char)}
    {condition : Condition} (hearlier : earlier ≠ [])
    (hcut : segments s = earlier ++ segment :: later)
    (hread : readSegment segment = some condition) : LinkedAsCut segment condition := by
  obtain ⟨word, rest, hlink⟩ := exists_linksAt_of_earlier hearlier hcut
  obtain ⟨inner, rfl, rfl, -⟩ := segment_of_linksAt (ne_nil_of_readSegment hread) hcut hlink
  obtain ⟨connector, hlinks, rfl⟩ := mem_connectorWords_iff.mp hlink.mem
  refine ⟨connector, inner, hlinks, rfl, ?_⟩
  cases inner with
  | nil =>
      rw [List.append_nil] at hread
      exact Or.inr ⟨rfl, (connector_eq_none_iff hread).mpr (not_opensSegment_word hlink.mem)⟩
  | cons c inner =>
      have hup : opensUpper (c :: inner) = true := hlink.upper
      exact Or.inl ⟨List.cons_ne_nil c inner, connector_of_word_append hlinks hup hread⟩

/-- A text that is not empty states a first condition and those of the segments behind. -/
theorem readConditions_cons {s : List Char} (hs : s ≠ []) :
    ∃ front others first, segments s = front :: others ∧ readSegment front = some first ∧
      readConditions s = first :: others.filterMap readSegment := by
  obtain ⟨front, others, hcut⟩ := List.exists_cons_of_ne_nil (segments_ne_nil s)
  obtain ⟨first, hread⟩ :=
    exists_readSegment (ne_nil_of_mem_segments hs front (by simp [hcut]))
  refine ⟨front, others, first, hcut, hread, ?_⟩
  rw [readConditions, hcut, List.filterMap_cons, hread]

/-- The first condition has no connector exactly if a connector word at the very start stands
right before another place to cut. -/
theorem first_connector_eq_none_iff {s front : List Char} {others : List (List Char)}
    {first : Condition} (hcut : segments s = front :: others)
    (hread : readSegment front = some first) :
    first.connector = .none ↔
      ∀ word rest, LinksAt s [] word rest → opensSegment rest = true := by
  have hfront : segments s = [] ++ front :: others := hcut
  have hat {word rest : List Char} (hlink : LinksAt s [] word rest) :
      first.connector = .none ↔ opensSegment rest = true :=
    connector_of_linksAt hfront hread hlink
  constructor
  · exact fun hnone word rest hlink => (hat hlink).mp hnone
  · intro hplaces
    refine Decidable.byContradiction (fun hlinks => ?_)
    have hopen : opensSegment front = true := by
      rw [← Bool.not_eq_false]
      exact fun hclosed => hlinks ((connector_eq_none_iff hread).mpr hclosed)
    obtain ⟨word, hword, inner, rfl, hup⟩ := opensSegment_iff.mp hopen
    have hlink : LinksAt s [] word (inner ++ others.flatten) := by
      have htext := text_of_cut hfront
      rw [List.append_assoc] at htext
      exact ⟨htext, hword, opensUpper_append hup⟩
    exact hlinks ((hat hlink).mpr (hplaces _ _ hlink))

/-- Each later condition has a connector exactly if no connector word further on stands right
before another place to cut. -/
theorem later_connectors_iff {s front : List Char} {others : List (List Char)} (hs : s ≠ [])
    (hcut : segments s = front :: others) :
    (∀ c ∈ others.filterMap readSegment, c.connector ≠ .none) ↔
      ∀ before word rest, before ≠ [] → LinksAt s before word rest →
        opensSegment rest = false := by
  constructor
  · intro hlinked before word rest hbefore hlink
    -- A segment begins at the word, so it is one of the later ones.
    have hstarts : StartsBehind s before := by
      rw [hlink.text]
      exact (startsBehind_iff hbefore).mpr hlink.opensSegment
    obtain ⟨earlier, segment, later, hsplit, rfl⟩ := hstarts
    cases earlier with
    | nil => exact absurd rfl hbefore
    | cons head earlier =>
        have htail : others = earlier ++ segment :: later := by
          rw [hcut] at hsplit
          exact (List.cons.inj hsplit).2
        have hsegment : segment ≠ [] := ne_nil_of_mem_segments hs segment (by simp [hsplit])
        obtain ⟨condition, hread⟩ := exists_readSegment hsegment
        have hmem : condition ∈ others.filterMap readSegment :=
          List.mem_filterMap.mpr ⟨segment, by simp [htail], hread⟩
        rw [Bool.eq_false_iff]
        exact fun hopen =>
          hlinked condition hmem ((connector_of_linksAt hsplit hread hlink).mpr hopen)
  · intro hplaces condition hmem hnone
    obtain ⟨segment, hsegment, hread⟩ := List.mem_filterMap.mp hmem
    obtain ⟨between, later, rfl⟩ := List.append_of_mem hsegment
    have hsplit : segments s = (front :: between) ++ segment :: later := hcut
    obtain ⟨word, rest, hlink⟩ :=
      exists_linksAt_of_earlier (List.cons_ne_nil front between) hsplit
    have hfront : front ≠ [] := ne_nil_of_mem_segments hs front (by simp [hcut])
    have hbefore : (front :: between).flatten ≠ [] := fun hnil =>
      hfront (List.append_eq_nil_iff.mp hnil).1
    have hopen := (connector_of_linksAt hsplit hread hlink).mp hnone
    rw [hplaces _ _ _ hbefore hlink] at hopen
    exact absurd hopen (by simp)

/-- Conditions are linked well exactly if every connector word at the very start stands right
before another place to cut, and no later one does. -/
theorem wellLinked_iff {s : List Char} (hs : s ≠ []) :
    WellLinked (readConditions s) ↔
      ∀ before word rest, LinksAt s before word rest →
        (before = [] ↔ opensSegment rest = true) := by
  obtain ⟨front, others, first, hcut, hread, hconditions⟩ := readConditions_cons hs
  rw [hconditions, WellLinked, first_connector_eq_none_iff hcut hread,
    later_connectors_iff hs hcut]
  constructor
  · rintro ⟨hfirst, hlater⟩ before word rest hlink
    by_cases hbefore : before = []
    · subst hbefore
      exact iff_of_true rfl (hfirst word rest hlink)
    · rw [hlater before word rest hbefore hlink]
      exact iff_of_false hbefore (by simp)
  · intro hplaces
    refine ⟨fun word rest hlink => (hplaces [] word rest hlink).mp rfl, ?_⟩
    intro before word rest hbefore hlink
    rw [Bool.eq_false_iff]
    exact fun hopen => hbefore ((hplaces before word rest hlink).mpr hopen)

/-! ### Whole names -/

namespace MethodName

/-- A name without conditions, or one of the words that conditions follow and a text behind it. -/
theorem conditions_ofText_cases (name : String) :
    (ofText name).conditions = [] ∨
    ∃ word operation stated, (word, operation) ∈ operationWords ∧ name = word ++ stated ∧
      stated ≠ "" ∧ (ofText name).conditions = readConditions stated.toList := by
  by_cases hnone : (ofText name).conditions = []
  · exact Or.inl hnone
  · refine Or.inr ?_
    have hstated : ∀ (word : String) (operation : Operation) (rest : List Char),
        (word, operation) ∈ operationWords → name.toList = word.toList ++ rest →
        ∃ word operation stated, (word, operation) ∈ operationWords ∧ name = word ++ stated ∧
          stated ≠ "" ∧ (ofText name).conditions = readConditions stated.toList := by
      intro word operation rest hword hname
      obtain ⟨stated, rfl⟩ := exists_eq_append_iff.mp ⟨rest, hname⟩
      have hconditions : (ofText (word ++ stated)).conditions = readConditions stated.toList := by
        rw [conditions_ofText, String.toList_append, splitOperation_word_append hword]
        rfl
      refine ⟨word, operation, stated, hword, rfl, ?_, hconditions⟩
      rintro rfl
      exact hnone (hconditions.trans rfl)
    rw [conditions_ofText] at hnone
    rcases splitOperation_cases name.toList with ⟨rest, hname, hsplit⟩ |
      ⟨word, operation, rest, hmem, hname, -⟩ | ⟨word, operation, rest, -, -, hsplit⟩ | hsplit
    · rw [hsplit] at hnone
      cases hby : afterPrefix? "By".toList rest with
      | none =>
          rw [hby] at hnone
          exact absurd rfl hnone
      | some behind =>
          rw [afterPrefix?_eq_some_iff.mp hby] at hname
          exact hstated "findAllBy" .findAll behind (by decide) (hname.trans rfl)
    · have hwords : ∀ found ∈ conditionalOperations, found ∈ operationWords := by decide
      exact hstated word operation rest (hwords _ hmem) hname
    · simp [hsplit] at hnone
    · simp [hsplit] at hnone

/-- **The conditions of a name are linked well exactly if every connector word at the very start
of their text stands right before another place to cut, and no later one does.**  Elsewhere
each later condition has the connector of the word it was cut at; a word that is all of its
segment is read as a field, without a connector. -/
theorem wellLinked_ofText_iff (name : String) :
    (ofText name).conditions = [] ∨
    ∃ word operation stated front parts first others,
      (word, operation) ∈ operationWords ∧ name = word ++ stated ∧
      segments stated.toList = front :: parts ∧ (ofText name).conditions = first :: others ∧
      List.Forall₂ LinkedAsCut parts others ∧
      (WellLinked (ofText name).conditions ↔
        ∀ before word rest, LinksAt stated.toList before word rest →
          (before = [] ↔ opensSegment rest = true)) := by
  rcases conditions_ofText_cases name with hnone | ⟨word, operation, stated, hword, hname, hne,
    hconditions⟩
  · exact Or.inl hnone
  · have hs : stated.toList ≠ [] := fun hnil => hne (String.toList_eq_nil_iff.mp hnil)
    obtain ⟨front, parts, first, hcut, hread, hcons⟩ := readConditions_cons hs
    refine Or.inr ⟨word, operation, stated, front, parts, first, parts.filterMap readSegment,
      hword, hname, hcut, hconditions.trans hcons, ?_, ?_⟩
    · have hnonempty : ∀ segment ∈ parts, segment ≠ [] := fun segment hmem =>
        ne_nil_of_mem_segments hs segment (by rw [hcut]; exact List.mem_cons_of_mem _ hmem)
      have hboth := (List.forall₂_and_left _ _).mpr
        ⟨fun segment (hmem : segment ∈ parts) => hmem, forall₂_readSegment hnonempty⟩
      refine hboth.imp ?_
      rintro segment condition ⟨hmem, hsegment⟩
      obtain ⟨between, later, rfl⟩ := List.append_of_mem hmem
      exact linkedAsCut_of_earlier (List.cons_ne_nil front between) hcut hsegment
    · rw [hconditions]
      exact wellLinked_iff hs

/-- The word `And` at the very start links the first condition to nothing, and is lost to its
field; between two conditions a word before another becomes a field that is linked to nothing. -/
theorem not_wellLinked_findByAndName :
    (ofText "findByAndName").conditions = [⟨"name", .equal, .and⟩] ∧
      ¬WellLinked (ofText "findByAndName").conditions ∧
      (ofText "findByNameAndOrEmail").conditions =
        [⟨"name", .equal, .none⟩, ⟨"and", .equal, .none⟩, ⟨"email", .equal, .or⟩] ∧
      ¬WellLinked (ofText "findByNameAndOrEmail").conditions := by
  have hand : (ofText "findByAndName").conditions = [⟨"name", .equal, .and⟩] := by
    decide +kernel
  have hor : (ofText "findByNameAndOrEmail").conditions =
      [⟨"name", .equal, .none⟩, ⟨"and", .equal, .none⟩, ⟨"email", .equal, .or⟩] := by
    decide +kernel
  refine ⟨hand, ?_, hor, ?_⟩
  · rw [hand]
    decide
  · rw [hor]
    decide

end MethodName

end QueryMethods
