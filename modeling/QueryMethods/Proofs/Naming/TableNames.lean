/-
Tables named after entities that open with capitals.

A table is spelled like a column, from the name of the entity with its first character lowered.
Lowering comes first, so the reader of words meets a lower-case letter where the entity has a
capital, and if another capital follows, a word begins that the entity does not have: a name that
opens with an acronym loses its first letter.  Nothing behind the second character is touched, and a
name that does not open in this way is spelled exactly like a column.

What counts of the first character is the last one it is lowered to.  Beside the capitals of ASCII
only the sign for kelvin ends in a letter of ASCII there.
-/
import QueryMethods.Proofs.Naming.WordBreaks

namespace QueryMethods

/-- Whether a name opens with a character that is lowered to a letter of ASCII and a capital of
ASCII behind it. -/
def opensInCapitals : List Char → Bool
  | c :: d :: _ => (isAsciiUpper c || c == Text.kelvinSign) && isAsciiUpper d
  | _ => false

section

variable {separator c last : Char} {before name rest : List Char}

/-- Of lowered characters in front of a name, only the last one matters for the words behind. -/
theorem breakWords_lowered_append (h : ∀ d ∈ before ++ [last], Text.lower d = [d]) :
    ∀ afterLower, breakWords separator afterLower (before ++ last :: rest) =
      before ++ last :: breakWords separator (isAsciiLower last) rest := by
  induction before with
  | nil =>
      intro afterLower
      exact breakWords_cons_of_lowered (h last (by simp))
  | cons d before ih =>
      intro afterLower
      rw [List.cons_append, breakWords_cons_of_lowered (h d (by simp)),
        ih (fun e he => h e (List.mem_cons_of_mem _ he))]
      rfl

/-- The bit that the reader carries shows at the next character only, and only if that is a
capital. -/
theorem breakWords_eq_iff {a b : Bool} :
    breakWords separator a name = breakWords separator b name ↔
      (a && name.head?.any isAsciiUpper) = (b && name.head?.any isAsciiUpper) := by
  cases name with
  | nil => simp [breakWords]
  | cons c rest =>
      rw [breakWords, breakWords, List.append_cancel_right_eq, List.append_cancel_right_eq,
        List.head?_cons, Option.any_some]
      cases a <;> cases b <;> cases isAsciiUpper c <;> simp

/-- Lowering a first character adds a word exactly where the name opens in capitals. -/
theorem head?_any_of_lowers (rest : List Char)
    (hlast : isAsciiLower last = (isAsciiLower c || isAsciiUpper c || c == Text.kelvinSign)) :
    (isAsciiLower last && rest.head?.any isAsciiUpper) =
      (isAsciiLower c && rest.head?.any isAsciiUpper || opensInCapitals (c :: rest)) := by
  cases rest with
  | nil => simp [opensInCapitals]
  | cons d rest =>
      rw [hlast, opensInCapitals, List.head?_cons, Option.any_some, ← Bool.and_or_distrib_right,
        Bool.or_assoc]

theorem opensInCapitals_of_isAsciiLower (h : isAsciiLower c = true) :
    opensInCapitals (c :: rest) = false := by
  have hrange := Text.isAsciiLower_iff.mp h
  have hsign : c ≠ Text.kelvinSign := by
    rintro rfl
    exact absurd h (by decide)
  cases rest with
  | nil => rfl
  | cons d rest =>
      have hupper : isAsciiUpper c = false := by
        rw [Bool.eq_false_iff, ne_eq, Text.isAsciiUpper_iff]
        omega
      simp [opensInCapitals, hupper, hsign]

/-- Behind the first character of a table, words begin as they begin in its entity, and one more
where the entity opens in capitals. -/
theorem wordBeginsAt_behind_lowered
    (hlast : isAsciiLower last = (isAsciiLower c || isAsciiUpper c || c == Text.kelvinSign)) :
    (fun i => wordBeginsAt (last :: rest) (i + 1)) = fun i =>
      wordBeginsAt (c :: rest) (i + 1) || i + 1 == 1 && opensInCapitals (c :: rest) := by
  funext i
  cases i with
  | zero =>
      have hhead := head?_any_of_lowers rest hlast
      rw [List.head?_eq_getElem?] at hhead
      exact hhead
  | succ i => simp [wordBeginsAt]

end

namespace Naming

variable {naming : Naming} {separator c : Char} {entity : String} {rest : List Char}

theorem table_eq_column_lowerFirst (h : naming.separator? = some separator) (entity : String) :
    naming.table entity = naming.column (Text.lowerFirst entity) := by
  rcases separator?_cases h with ⟨rfl | rfl, -⟩ | ⟨rfl, -⟩ <;> rfl

theorem toList_column_of_cons (h : naming.separator? = some separator)
    (hentity : entity.toList = c :: rest) :
    (naming.column entity).toList = Text.lower c ++ breakWords separator (isAsciiLower c) rest := by
  rw [column_eq_breakWords h, String.toList_ofList, hentity, breakWords]
  rfl

/-- A table is its lowered first character and then what a column would be behind the last
character of that. -/
theorem exists_toList_table_of_cons (h : naming.separator? = some separator)
    (hentity : entity.toList = c :: rest) :
    ∃ last, isAsciiLower last = (isAsciiLower c || isAsciiUpper c || c == Text.kelvinSign) ∧
      (naming.table entity).toList =
        Text.lower c ++ breakWords separator (isAsciiLower last) rest := by
  obtain ⟨last, hgetLast, hletter⟩ := Text.exists_getLast?_lower c
  obtain ⟨before, hlower⟩ := List.getLast?_eq_some_iff.mp hgetLast
  refine ⟨last, hletter, ?_⟩
  have hlowered : ∀ d ∈ before ++ [last], Text.lower d = [d] := by
    intro d hd
    exact Text.lower_eq_self_of_mem (c := c) (by rw [hlower]; exact hd)
  rw [table_eq_column_lowerFirst h, column_eq_breakWords h, String.toList_ofList, Text.lowerFirst,
    hentity]
  simp only [String.toList_ofList]
  rw [hlower, List.append_assoc, List.singleton_append, breakWords_lowered_append hlowered,
    List.append_assoc, List.singleton_append]

theorem table_of_empty (h : naming.separator? = some separator) (hentity : entity.toList = []) :
    naming.table entity = naming.column entity := by
  have hsame : Text.lowerFirst entity = entity := by
    rw [Text.lowerFirst, hentity, ← String.toList_inj, hentity]
    rfl
  rw [table_eq_column_lowerFirst h, hsame]

theorem toList_table (h : naming.separator? = some separator) (entity : String) :
    (naming.table entity).toList =
      spelledWith separator
        (fun i => wordBeginsAt entity.toList i || i == 1 && opensInCapitals entity.toList)
        entity.toList := by
  cases hentity : entity.toList with
  | nil =>
      rw [table_of_empty h hentity, toList_column h, hentity]
      rfl
  | cons c rest =>
      obtain ⟨last, hlast, htable⟩ := exists_toList_table_of_cons h hentity
      rw [htable, breakWords_behind, wordBeginsAt_behind_lowered hlast, spelledWith_cons]
      rfl

theorem table_eq_column_iff (h : naming.separator? = some separator) (entity : String) :
    naming.table entity = naming.column entity ↔ opensInCapitals entity.toList = false := by
  cases hentity : entity.toList with
  | nil => exact iff_of_true (table_of_empty h hentity) rfl
  | cons c rest =>
      obtain ⟨last, hlast, htable⟩ := exists_toList_table_of_cons h hentity
      rw [← String.toList_inj, htable, toList_column_of_cons h hentity,
        List.append_cancel_left_eq, breakWords_eq_iff, head?_any_of_lowers rest hlast]
      cases hlower : isAsciiLower c with
      | false => simp
      | true => simp [opensInCapitals_of_isAsciiLower hlower]

/-- **A table is spelled like the column of its entity unless the entity opens in capitals.**

Then, and only then, one more word begins, at the second character. -/
theorem table_spelled_as_column_iff (h : naming.separator? = some separator) (entity : String) :
    (naming.table entity).toList =
        spelledWith separator
          (fun i => wordBeginsAt entity.toList i || i == 1 && opensInCapitals entity.toList)
          entity.toList ∧
      ((naming.table entity).toList =
          spelledWith separator (wordBeginsAt entity.toList) entity.toList ↔
        naming.table entity = naming.column entity) ∧
      (naming.table entity = naming.column entity ↔ opensInCapitals entity.toList = false) := by
  refine ⟨toList_table h entity, ?_, table_eq_column_iff h entity⟩
  rw [← toList_column h entity, String.toList_inj]

/-- Of a name that opens with an acronym, the words behind it begin where they should. -/
theorem table_spelled_as_column_iff_http_request :
    kebab.separator? = some '-' ∧ kebab.table "XMLHttpRequest" = "x-mlhttp-request" ∧
      (kebab.table "XMLHttpRequest").toList =
        spelledWith '-'
          (fun i => wordBeginsAt "XMLHttpRequest".toList i ||
            i == 1 && opensInCapitals "XMLHttpRequest".toList)
          "XMLHttpRequest".toList ∧
      ((kebab.table "XMLHttpRequest").toList =
          spelledWith '-' (wordBeginsAt "XMLHttpRequest".toList) "XMLHttpRequest".toList ↔
        kebab.table "XMLHttpRequest" = kebab.column "XMLHttpRequest") ∧
      (kebab.table "XMLHttpRequest" = kebab.column "XMLHttpRequest" ↔
        opensInCapitals "XMLHttpRequest".toList = false) :=
  ⟨rfl, by decide +kernel, table_spelled_as_column_iff rfl _⟩

/-- The table loses the first letter of the acronym that the column keeps together. -/
theorem table_splits_http_server :
    snake.column "HTTPServer" = "httpserver" ∧ snake.table "HTTPServer" = "h_ttpserver" ∧
      (snake.table "HTTPServer").toList ≠
        spelledWith '_' (wordBeginsAt "HTTPServer".toList) "HTTPServer".toList := by
  decide +kernel

end Naming

end QueryMethods
