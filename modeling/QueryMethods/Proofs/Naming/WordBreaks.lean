/-
Where a name is broken into words.

The reader of a name carries one bit, whether the character before was a lower-case letter of ASCII,
and it is handed on afresh at every character.  So what is written in front of a character depends
on that character and the one before it and on nothing else, which is the law by position that is
proved here.

Breaking a name again changes nothing.  What was written is lowered, separators included, and
lowered characters are no capitals of ASCII: no word begins there any more, and lowering has nothing
left to do.
-/
import QueryMethods.Proofs.Text.Lowering

namespace QueryMethods

/-- Whether a word begins at a position of a name: an upper-case letter of ASCII stands there and a
lower-case one directly before it. -/
def wordBeginsAt (name : List Char) : Nat → Bool
  | 0 => false
  | i + 1 => name[i]?.any isAsciiLower && name[i + 1]?.any isAsciiUpper

/-- A name lowered character by character, with a separator in front of every position that
`begins` picks. -/
def spelledWith (separator : Char) (begins : Nat → Bool) (name : List Char) : List Char :=
  name.zipIdx.flatMap fun (c, i) => (if begins i then [separator] else []) ++ Text.lower c

/-- What a naming writes between words; the camel and the Pascal naming break no name. -/
def Naming.separator? : Naming → Option Char
  | snake | custom => some '_'
  | kebab => some '-'
  | camel | pascal => none

section

variable {separator c : Char} {name rest : List Char} {begins : Nat → Bool}

theorem spelledWith_cons : spelledWith separator begins (c :: rest) =
    (if begins 0 then [separator] else []) ++ Text.lower c ++
      spelledWith separator (fun i => begins (i + 1)) rest := by
  rw [spelledWith, List.zipIdx_cons, List.flatMap_cons, List.zipIdx_succ, List.flatMap_map]
  rfl

/-! ### What is written is lowered -/

theorem breakWords_cons_of_lowered {afterLower : Bool} (h : Text.lower c = [c]) :
    breakWords separator afterLower (c :: rest) =
      c :: breakWords separator (isAsciiLower c) rest := by
  rw [breakWords, Text.isAsciiUpper_of_lower_eq_self h, h, Bool.and_false]
  rfl

/-- A lowered name is kept. -/
theorem breakWords_of_lowered (h : ∀ c ∈ name, Text.lower c = [c]) :
    ∀ afterLower, breakWords separator afterLower name = name := by
  induction name with
  | nil => intro afterLower; rfl
  | cons c rest ih =>
      intro afterLower
      rw [breakWords_cons_of_lowered (h c (by simp)), ih (fun d hd => h d (by simp [hd]))]

theorem lower_of_mem_breakWords (hsep : Text.lower separator = [separator]) :
    ∀ afterLower, ∀ d ∈ breakWords separator afterLower name, Text.lower d = [d] := by
  induction name with
  | nil => intro afterLower d hd; exact absurd hd List.not_mem_nil
  | cons c rest ih =>
      intro afterLower d hd
      rw [breakWords, List.mem_append, List.mem_append] at hd
      rcases hd with (hd | hd) | hd
      · obtain rfl : d = separator := by
          split at hd
          · exact List.mem_singleton.mp hd
          · exact absurd hd List.not_mem_nil
        exact hsep
      · exact Text.lower_eq_self_of_mem hd
      · exact ih _ d hd

/-! ### Words by position -/

/-- Behind a character, words begin where they begin in the name that has it in front. -/
theorem breakWords_behind (before : Char) (name : List Char) :
    breakWords separator (isAsciiLower before) name =
      spelledWith separator (fun i => wordBeginsAt (before :: name) (i + 1)) name := by
  -- The bit belongs to the character in front, and the next step has its own in front.
  induction name generalizing before with
  | nil => rfl
  | cons c rest ih =>
      rw [breakWords, ih c, spelledWith_cons]
      rfl

theorem breakWords_eq_spelledWith (name : List Char) :
    breakWords separator false name = spelledWith separator (wordBeginsAt name) name := by
  cases name with
  | nil => rfl
  | cons c rest =>
      rw [breakWords, breakWords_behind, spelledWith_cons]
      rfl

end

namespace Naming

variable {naming : Naming} {separator : Char}

theorem separator?_cases (h : naming.separator? = some separator) :
    (naming = snake ∨ naming = custom) ∧ separator = '_' ∨ naming = kebab ∧ separator = '-' := by
  cases naming with
  | snake => exact Or.inl ⟨Or.inl rfl, (Option.some.inj h).symm⟩
  | custom => exact Or.inl ⟨Or.inr rfl, (Option.some.inj h).symm⟩
  | kebab => exact Or.inr ⟨rfl, (Option.some.inj h).symm⟩
  | camel => exact absurd h (by simp [separator?])
  | pascal => exact absurd h (by simp [separator?])

theorem column_eq_breakWords (h : naming.separator? = some separator) (field : String) :
    naming.column field = String.ofList (breakWords separator false field.toList) := by
  rcases separator?_cases h with ⟨rfl | rfl, rfl⟩ | ⟨rfl, rfl⟩ <;> rfl

theorem toList_column (h : naming.separator? = some separator) (field : String) :
    (naming.column field).toList =
      spelledWith separator (wordBeginsAt field.toList) field.toList := by
  rw [column_eq_breakWords h, String.toList_ofList, breakWords_eq_spelledWith]

theorem lower_separator (h : naming.separator? = some separator) :
    Text.lower separator = [separator] := by
  rcases separator?_cases h with ⟨rfl | rfl, rfl⟩ | ⟨rfl, rfl⟩ <;> rfl

/-- **A column is its field, lowered and broken where a lower-case letter of ASCII meets an
upper-case one, and nowhere else.**

No capital of ASCII is left, and the column of the column is the column. -/
theorem column_breaks_words (h : naming.separator? = some separator) (field : String) :
    (naming.column field).toList =
        spelledWith separator (wordBeginsAt field.toList) field.toList ∧
      (∀ c ∈ (naming.column field).toList, isAsciiUpper c = false) ∧
      naming.column (naming.column field) = naming.column field := by
  have hlowered : ∀ c ∈ (naming.column field).toList, Text.lower c = [c] := by
    intro c hc
    rw [column_eq_breakWords h field, String.toList_ofList] at hc
    exact lower_of_mem_breakWords (lower_separator h) false c hc
  refine ⟨toList_column h field, ?_, ?_⟩
  · intro c hc
    exact Text.isAsciiUpper_of_lower_eq_self (hlowered c hc)
  · rw [column_eq_breakWords h (naming.column field), breakWords_of_lowered hlowered,
      String.ofList_toList]

/-- A row of capitals stays together, a digit breaks nothing, and one character may become two. -/
theorem column_breaks_words_user_http :
    kebab.separator? = some '-' ∧
      kebab.column "userHTTPToken2B\u0130dA" = "user-httptoken2bi\u0307d-a" ∧
      (kebab.column "userHTTPToken2B\u0130dA").toList =
        spelledWith '-' (wordBeginsAt "userHTTPToken2B\u0130dA".toList)
          "userHTTPToken2B\u0130dA".toList ∧
      (∀ c ∈ (kebab.column "userHTTPToken2B\u0130dA").toList, isAsciiUpper c = false) ∧
      kebab.column (kebab.column "userHTTPToken2B\u0130dA") =
        kebab.column "userHTTPToken2B\u0130dA" :=
  ⟨rfl, by decide +kernel, column_breaks_words rfl _⟩

end Naming

end QueryMethods
