/-
Writing a method name, and reading it back.

A name is written as the word of an operation and conditions behind it, each a field and
a comparison word, with a connector word in front of all but the first.  Reading is the
inverse of writing as long as the fields do not look like something else: each opens
with an upper-case letter, holds no connector word that would be cut off, and does not
lengthen its comparison word into another one.

The proof follows the reader.  The seams between the parts hold no connector words
(`ConnectorFree.append`), so the text is cut exactly where it was put together
(`segments_writeConditions`); the longest comparison word of each segment is the one
that was written (`longestComparison?_phrase`); and what is left is the field.
-/
import QueryMethods.Proofs.MethodName.Segments
import QueryMethods.Proofs.MethodName.LongestWord
import QueryMethods.Proofs.Text.Lowering
import Mathlib.Data.List.Infix

namespace QueryMethods

/-- A condition as it is written; the comparison may be left out for equality. -/
structure WrittenCondition where
  connector : Connector
  field : String
  comparison : Option Comparison
  deriving DecidableEq, Repr

/-- The word of a connector. -/
def Connector.word : Connector → List Char
  | and => andWord
  | or => orWord
  | none => []

/-- A text with its first letter lowered, which is one of ASCII. -/
def lowerInitial (s : String) : String :=
  match s.toList with
  | [] => ""
  | c :: rest => String.ofList (c.toLower :: rest)

namespace WrittenCondition

/-- The comparison word, empty when the comparison is left out. -/
def word (c : WrittenCondition) : List Char :=
  match c.comparison with
  | some k => k.keyword.toList
  | none => []

/-- The field and the comparison word. -/
def phrase (c : WrittenCondition) : List Char := c.field.toList ++ c.word

/-- The condition behind its connector word. -/
def linked (c : WrittenCondition) : List Char := c.connector.word ++ c.phrase

/-- The condition that is meant, linked by a connector. -/
def meaning (c : WrittenCondition) (connector : Connector) : Condition :=
  ⟨lowerInitial c.field, c.comparison.getD .equal, connector⟩

/-- A condition whose parts can be told apart again. -/
structure Readable (c : WrittenCondition) : Prop where
  connector_ne : c.connector ≠ .none
  opensUpper : opensUpper c.field.toList = true
  connectorFree : ConnectorFree c.field.toList
  /-- No longer word is a proper suffix of the field and its comparison word. -/
  longest : ∀ k ∈ Comparison.all, k.keyword.toList <:+ c.phrase → k.keyword.toList ≠ c.phrase →
    k.keyword.toList.length ≤ c.word.length

end WrittenCondition

/-- Conditions as they are written; the connector of the first is left out. -/
def writeConditions : List WrittenCondition → List Char
  | [] => []
  | first :: others => first.phrase ++ others.flatMap WrittenCondition.linked

/-- The conditions that are meant; the first is linked to nothing. -/
def meantConditions : List WrittenCondition → List Condition
  | [] => []
  | first :: others => first.meaning .none :: others.map (fun c => c.meaning c.connector)

/-- The words that conditions follow. -/
def operationWords : List (String × Operation) :=
  [("findBy", .find), ("findAllBy", .findAll), ("countBy", .count), ("deleteBy", .delete),
    ("existsBy", .exist)]

/-- A name from the word of its operation and its conditions. -/
def writeName (word : String) (conditions : List WrittenCondition) : String :=
  word ++ String.ofList (writeConditions conditions)

/-! ### Deciding whether a condition is readable -/

theorem connectorFree_iff_tails {s : List Char} :
    ConnectorFree s ↔ ∀ t ∈ s.tails, ∀ word ∈ connectorWords, ∀ after ∈ t.tails,
      t = word ++ after → after ≠ [] ∧ opensUpper after = false := by
  constructor
  · intro h t ht word hword after _ heq
    obtain ⟨before, hbefore⟩ := (List.mem_tails _ _).mp ht
    exact h before word after hword (by rw [← hbefore, heq, List.append_assoc])
  · intro h before word after hword heq
    refine h (word ++ after) ?_ word hword after ?_ rfl
    · exact (List.mem_tails _ _).mpr ⟨before, by rw [heq, List.append_assoc]⟩
    · exact (List.mem_tails _ _).mpr ⟨word, rfl⟩

instance (s : List Char) : Decidable (ConnectorFree s) :=
  decidable_of_iff _ connectorFree_iff_tails.symm

theorem WrittenCondition.readable_iff {c : WrittenCondition} :
    c.Readable ↔ c.connector ≠ .none ∧ opensUpper c.field.toList = true ∧
      ConnectorFree c.field.toList ∧
      ∀ k ∈ Comparison.all, k.keyword.toList <:+ c.phrase → k.keyword.toList ≠ c.phrase →
        k.keyword.toList.length ≤ c.word.length :=
  ⟨fun h => ⟨h.connector_ne, h.opensUpper, h.connectorFree, h.longest⟩,
    fun ⟨hc, hu, hf, hl⟩ => ⟨hc, hu, hf, hl⟩⟩

instance (c : WrittenCondition) : Decidable c.Readable :=
  decidable_of_iff _ WrittenCondition.readable_iff.symm

/-! ### One condition -/

theorem lowerFirst_eq_lowerInitial {s : String} (h : opensUpper s.toList = true) :
    Text.lowerFirst s = lowerInitial s := by
  rw [Text.lowerFirst, lowerInitial]
  cases hs : s.toList with
  | nil => rfl
  | cons c rest =>
      rw [hs] at h
      simp only
      rw [Text.lower_of_isAsciiUpper h]
      rfl

/-- No comparison word holds a connector word. -/
theorem keyword_connectorFree (k : Comparison) : ConnectorFree k.keyword.toList := by
  have hall : ∀ k ∈ Comparison.all, ConnectorFree k.keyword.toList := by decide +kernel
  exact hall k (Comparison.mem_all k)

theorem keyword_opensUpper (k : Comparison) : opensUpper k.keyword.toList = true := by
  cases k <;> rfl

theorem connectorFree_nil : ConnectorFree [] := by decide

namespace WrittenCondition

variable {c : WrittenCondition}

theorem word_connectorFree (c : WrittenCondition) : ConnectorFree c.word := by
  rw [word]
  cases c.comparison with
  | none => exact connectorFree_nil
  | some k => exact keyword_connectorFree k

theorem word_fresh (c : WrittenCondition) : Fresh c.word := by
  rw [word]
  cases c.comparison with
  | none => exact Or.inl rfl
  | some k => exact Or.inr (keyword_opensUpper k)

theorem Readable.phrase_connectorFree (h : c.Readable) : ConnectorFree c.phrase :=
  h.connectorFree.append c.word_connectorFree c.word_fresh

theorem Readable.phrase_opensUpper (h : c.Readable) :
    QueryMethods.opensUpper c.phrase = true :=
  opensUpper_append h.opensUpper

theorem Readable.phrase_ne_nil (h : c.Readable) : c.phrase ≠ [] := by
  intro hnil
  have hup := h.phrase_opensUpper
  rw [hnil] at hup
  simp [QueryMethods.opensUpper] at hup

theorem Readable.field_length_pos (h : c.Readable) : 0 < c.field.toList.length := by
  cases hf : c.field.toList with
  | nil =>
      have hup := h.opensUpper
      rw [hf] at hup
      simp [QueryMethods.opensUpper] at hup
  | cons x rest => simp

/-- No word at the end of the phrase is longer than the one that was written. -/
theorem Readable.keyword_length_le (h : c.Readable) {k : Comparison}
    (hk : endsWithComparison c.phrase k = true) :
    k.keyword.toList.length ≤ c.word.length := by
  obtain ⟨hlt, hsuffix⟩ := endsWithComparison_iff.mp hk
  refine h.longest k (Comparison.mem_all k) hsuffix ?_
  intro heq
  rw [heq] at hlt
  exact Nat.lt_irrefl _ hlt

/-- The comparison that is read off a phrase is the one that was written. -/
theorem Readable.longestComparison?_phrase (h : c.Readable) :
    longestComparison? c.phrase = c.comparison := by
  have hpos := h.field_length_pos
  cases hc : c.comparison with
  | some k =>
      have hword : c.word = k.keyword.toList := by rw [word, hc]
      refine longestComparison?_eq_some_iff.mpr ⟨?_, ?_⟩
      · refine endsWithComparison_iff.mpr ⟨?_, ?_⟩
        · rw [phrase, hword, List.length_append]
          omega
        · rw [phrase, hword]
          exact List.suffix_append _ _
      · intro d hd
        have hle := h.keyword_length_le hd
        rw [hword, String.length_toList, String.length_toList] at hle
        exact hle
  | none =>
      have hword : c.word = [] := by rw [word, hc]
      refine longestComparison?_eq_none_iff.mpr ?_
      intro d
      rw [Bool.eq_false_iff]
      intro hd
      have hle := h.keyword_length_le hd
      have hne := keyword_opensUpper d
      rw [hword, List.length_nil, Nat.le_zero, List.length_eq_zero_iff] at hle
      rw [hle] at hne
      simp [QueryMethods.opensUpper] at hne

theorem Readable.splitComparison_phrase (h : c.Readable) :
    splitComparison c.phrase = (c.field.toList, c.comparison.getD .equal) := by
  have hlongest := h.longestComparison?_phrase
  cases hc : c.comparison with
  | some k =>
      have hphrase : c.phrase = c.field.toList ++ k.keyword.toList := by rw [phrase, word, hc]
      rw [hc, hphrase] at hlongest
      rw [hphrase]
      exact splitComparison_append hlongest
  | none =>
      have hphrase : c.phrase = c.field.toList := by rw [phrase, word, hc]; simp
      rw [hc] at hlongest
      rw [splitComparison_of_none hlongest, hphrase]
      rfl

/-- Behind its connector, a segment is read as the condition that is meant. -/
theorem Readable.readSegment_eq (h : c.Readable) {segment : List Char} {connector : Connector}
    (hsplit : splitConnector segment = (connector, c.phrase)) :
    readSegment segment = some (c.meaning connector) := by
  have hne : c.phrase.isEmpty = false := by
    rw [List.isEmpty_eq_false_iff]
    exact h.phrase_ne_nil
  rw [readSegment, hsplit]
  simp only [hne, h.splitComparison_phrase, String.ofList_toList,
    lowerFirst_eq_lowerInitial h.opensUpper]
  rfl

theorem Readable.readSegment_phrase (h : c.Readable) :
    readSegment c.phrase = some (c.meaning .none) := by
  refine h.readSegment_eq (splitConnector_of_not_opensSegment ?_)
  have hopen := h.phrase_connectorFree.not_opensSegment (Or.inl rfl) h.phrase_ne_nil
  rwa [List.append_nil] at hopen

theorem Readable.readSegment_linked (h : c.Readable) :
    readSegment c.linked = some (c.meaning c.connector) := by
  refine h.readSegment_eq ?_
  rw [linked]
  cases hc : c.connector with
  | and => exact splitConnector_and h.phrase_opensUpper
  | or => exact splitConnector_or h.phrase_opensUpper
  | none => exact absurd hc h.connector_ne

theorem Readable.connector_word_mem (h : c.Readable) : c.connector.word ∈ connectorWords := by
  cases hc : c.connector with
  | and => simp [Connector.word, connectorWords]
  | or => simp [Connector.word, connectorWords]
  | none => exact absurd hc h.connector_ne

end WrittenCondition

/-! ### All conditions -/

/-- Conditions behind the first are cut in front of every connector word. -/
theorem cutsInto_linked {cs : List WrittenCondition} (h : ∀ c ∈ cs, c.Readable) :
    CutsInto (cs.flatMap WrittenCondition.linked) (cs.map WrittenCondition.linked) := by
  induction cs with
  | nil => exact Or.inl ⟨rfl, rfl⟩
  | cons c cs ih =>
      have hc : c.Readable := h c (by simp)
      have hcs := ih (fun d hd => h d (by simp [hd]))
      refine Or.inr ⟨?_, ?_⟩
      · refine opensSegment_iff.mpr ⟨c.connector.word, hc.connector_word_mem,
          c.phrase ++ cs.flatMap WrittenCondition.linked, ?_, ?_⟩
        · rw [List.flatMap_cons, WrittenCondition.linked, List.append_assoc]
        · exact opensUpper_append hc.phrase_opensUpper
      · rw [List.flatMap_cons, WrittenCondition.linked, List.append_assoc, List.map_cons]
        exact segments_word_append hc.connector_word_mem
          (hc.phrase_connectorFree.not_opensSegment hcs.fresh hc.phrase_ne_nil)
          (segments_append hc.phrase_ne_nil hc.phrase_connectorFree hcs)

theorem segments_writeConditions {first : WrittenCondition} {others : List WrittenCondition}
    (hfirst : first.Readable) (hothers : ∀ c ∈ others, c.Readable) :
    segments (writeConditions (first :: others)) =
      first.phrase :: others.map WrittenCondition.linked :=
  segments_append hfirst.phrase_ne_nil hfirst.phrase_connectorFree (cutsInto_linked hothers)

theorem filterMap_readSegment_linked {cs : List WrittenCondition} (h : ∀ c ∈ cs, c.Readable) :
    (cs.map WrittenCondition.linked).filterMap readSegment =
      cs.map (fun c => c.meaning c.connector) := by
  induction cs with
  | nil => rfl
  | cons c cs ih =>
      have hc : c.Readable := h c (by simp)
      rw [List.map_cons, List.filterMap_cons, hc.readSegment_linked, List.map_cons]
      simp only
      rw [ih (fun d hd => h d (by simp [hd]))]

/-- Reading written conditions gives the conditions that are meant. -/
theorem readConditions_writeConditions {cs : List WrittenCondition} (hne : cs ≠ [])
    (h : ∀ c ∈ cs, c.Readable) : readConditions (writeConditions cs) = meantConditions cs := by
  cases cs with
  | nil => exact absurd rfl hne
  | cons first others =>
      have hfirst : first.Readable := h first (by simp)
      have hothers : ∀ c ∈ others, c.Readable := fun c hc => h c (by simp [hc])
      rw [readConditions, segments_writeConditions hfirst hothers, List.filterMap_cons,
        hfirst.readSegment_phrase]
      simp only
      rw [filterMap_readSegment_linked hothers]
      rfl

/-! ### The whole name -/

theorem splitOperation_word_append {word : String} {operation : Operation}
    (h : (word, operation) ∈ operationWords) (s : List Char) :
    splitOperation (word.toList ++ s) = (operation, some s) := by
  simp only [operationWords, List.mem_cons, Prod.mk.injEq, List.not_mem_nil, or_false] at h
  rcases h with ⟨rfl, rfl⟩ | ⟨rfl, rfl⟩ | ⟨rfl, rfl⟩ | ⟨rfl, rfl⟩ | ⟨rfl, rfl⟩ <;> rfl

/-- **Reading a written name gives the operation and the conditions it was written from.** -/
theorem ofText_writeName {word : String} {operation : Operation}
    (hword : (word, operation) ∈ operationWords) {conditions : List WrittenCondition}
    (hne : conditions ≠ []) (hread : ∀ c ∈ conditions, c.Readable) :
    MethodName.ofText (writeName word conditions) =
      { operation, conditions := meantConditions conditions
        text := writeName word conditions } := by
  rw [MethodName.ofText, writeName, String.toList_append, String.toList_ofList,
    splitOperation_word_append hword]
  simp only [Option.map_some, Option.getD_some]
  rw [readConditions_writeConditions hne hread]

/-- Fields that open like a connector word, hold one as a syllable, or end in half a
comparison word are read as they were written. -/
theorem ofText_writeName_android :
    (∀ c ∈ ([⟨.and, "OrderNumber", some .greaterThanEqual⟩, ⟨.or, "BrandNot", none⟩,
      ⟨.and, "AndroidVersion", some .notIn⟩] : List WrittenCondition), c.Readable) ∧
    MethodName.ofText
        "findAllByOrderNumberGreaterThanEqualOrBrandNotAndAndroidVersionNotIn" =
      { operation := .findAll
        conditions := [⟨"orderNumber", .greaterThanEqual, .none⟩, ⟨"brandNot", .equal, .or⟩,
          ⟨"androidVersion", .notIn, .and⟩]
        text := "findAllByOrderNumberGreaterThanEqualOrBrandNotAndAndroidVersionNotIn" } := by
  have hread : ∀ c ∈ ([⟨.and, "OrderNumber", some .greaterThanEqual⟩, ⟨.or, "BrandNot", none⟩,
      ⟨.and, "AndroidVersion", some .notIn⟩] : List WrittenCondition), c.Readable := by
    decide +kernel
  have hword : ("findAllBy", Operation.findAll) ∈ operationWords := by decide
  exact ⟨hread, ofText_writeName hword (by simp) hread⟩

end QueryMethods
