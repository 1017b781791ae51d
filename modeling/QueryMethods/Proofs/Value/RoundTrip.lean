/-
Values that are bound are read back.

Each scalar type has its own reading, and each undoes its binding.  Only the integers need
an argument: a number of at most 63 bits and a sign is an SQL integer and is in range when it
comes back, and a greater one, which only the widest unsigned types have, is its decimal text
and is read from that.

What a list or an option is read as follows from its items, with one condition.  An option
reads every null as nothing, so its type of values must bind none of its own values as null.
Options and values as they are do that, and no other type does: `encode_ne_null` is the fact
that keeps an option from losing a value.
-/
import QueryMethods.Value.Codec

namespace QueryMethods

/-! ### Decimal text -/

theorem digitsValue_toDigits (n : Nat) : digitsValue (Nat.toDigits 10 n) = n :=
  Nat.ofDigitChars_toDigits (by decide) (by decide)

theorem isDigit_of_mem_toDigits {n : Nat} {c : Char} (h : c ∈ Nat.toDigits 10 n) :
    c.isDigit = true :=
  Nat.isDigit_of_mem_toDigits (by decide) (by decide) h

/-- A row of digits is read as the number it writes: it does not begin with a sign. -/
theorem readNatural_of_digits {s : String} {ds : List Char} (hs : s.toList = ds) (hne : ds ≠ [])
    (hdigits : ∀ c ∈ ds, c.isDigit = true) (hbound : digitsValue ds < powerOfTwo 64) :
    readNatural s = some (digitsValue ds) := by
  have hnonempty : ds.isEmpty = false := List.isEmpty_eq_false_iff.mpr hne
  have hall : ds.all Char.isDigit = true := List.all_eq_true.mpr hdigits
  rw [readNatural, hs]
  split
  · have hplus : Char.isDigit '+' = true := hdigits _ List.mem_cons_self
    exact absurd hplus (by decide)
  · simp [hnonempty, hall, hbound]

/-- The decimal text of a number of at most 64 bits is read as that number. -/
theorem readNatural_repr {n : Nat} (h : n < powerOfTwo 64) : readNatural n.repr = some n := by
  have hvalue : digitsValue (Nat.toDigits 10 n) = n := digitsValue_toDigits n
  have hbound : digitsValue (Nat.toDigits 10 n) < powerOfTwo 64 := by
    rw [hvalue]
    exact h
  rw [readNatural_of_digits Nat.toList_repr Nat.toDigits_ne_nil
    (fun c hc => isDigit_of_mem_toDigits hc) hbound, hvalue]

/-! ### Integers -/

namespace IntegerType

variable (t : IntegerType)

theorem least_ge : i64.least ≤ t.least := by cases t <;> decide

theorem greatest_le : t.greatest ≤ u64.greatest := by cases t <;> decide

/-- Only the types that are read from text have numbers that are bound as text. -/
theorem isWide_of_greatest (h : i64.greatest < t.greatest) : t.isWide = true := by
  cases t <;> simp [greatest] at h <;> rfl

theorem least_of_isWide (h : t.isWide = true) : t.least = 0 := by
  cases t <;> simp [isWide] at h <;> rfl

variable {t}

theorem checked_val (n : t.Carrier) (found : String) : t.checked n.val found = .ok n := by
  have hrange : t.least ≤ n.val ∧ n.val ≤ t.greatest := n.property
  rw [checked, ofInt?, dif_pos hrange]

theorem encode_of_le {n : t.Carrier} (h : n.val ≤ i64.greatest) :
    t.encode n = .int (Int64.ofInt n.val) := if_pos h

theorem encode_of_gt {n : t.Carrier} (h : i64.greatest < n.val) :
    t.encode n = .decimal (toString n.val) := if_neg (Int.not_le.mpr h)

theorem decode_int {n : t.Carrier} (h : n.val ≤ i64.greatest) :
    t.decode (.int (Int64.ofInt n.val)) = .ok n := by
  have hleast : i64.least ≤ n.val := Int.le_trans t.least_ge n.property.1
  have hword : (Int64.ofInt n.val).toInt = n.val := by
    rw [least] at hleast
    rw [greatest] at h
    exact Int64.toInt_ofInt_of_le (by omega) (by omega)
  by_cases hwide : t.isWide = true
  · rw [decode, if_pos hwide]
    simp only [hword, checked_val]
  · rw [decode, if_neg hwide]
    simp only [hword, checked_val]

theorem decode_decimal {n : t.Carrier} (h : i64.greatest < n.val) :
    t.decode (.decimal (toString n.val)) = .ok n := by
  have hwide : t.isWide = true := t.isWide_of_greatest (Int.lt_of_lt_of_le h n.property.2)
  have hnonneg : 0 ≤ n.val := by
    rw [← t.least_of_isWide hwide]
    exact n.property.1
  obtain ⟨k, hk⟩ := Int.eq_ofNat_of_zero_le hnonneg
  have hbound : k < powerOfTwo 64 := by
    have hval : n.val ≤ u64.greatest := Int.le_trans n.property.2 t.greatest_le
    have hpower : powerOfTwo 64 = 18446744073709551616 := rfl
    rw [hk, greatest] at hval
    omega
  have htext : toString n.val = k.repr := by rw [hk]; rfl
  rw [decode, if_pos hwide, htext]
  simp only [readNatural_repr hbound, ← hk, checked_val]

/-- Integers are read back, whichever way they are bound. -/
theorem decode_encode (n : t.Carrier) : t.decode (t.encode n) = .ok n := by
  by_cases h : n.val ≤ i64.greatest
  · rw [encode_of_le h]
    exact decode_int h
  · have hgreater : i64.greatest < n.val := Int.not_le.mp h
    rw [encode_of_gt hgreater]
    exact decode_decimal hgreater

theorem encode_ne_null (n : t.Carrier) : t.encode n ≠ .null := by
  rw [encode]
  split
  · exact Value.noConfusion
  · exact Value.noConfusion

end IntegerType

/-! ### Types of values -/

namespace ValueType

/-- Whether some value of a type is bound as null. -/
def nullable : ValueType → Bool
  | value | option _ => true
  | _ => false

/-- The types whose values are read back as they were bound: built from the scalars other than
the binary fractions by lists and by options of what is never null. -/
inductive Exact : ValueType → Prop
  | bool : Exact .bool
  | integer (t : IntegerType) : Exact (.integer t)
  | text : Exact .text
  | char : Exact .char
  | value : Exact .value
  | option {t : ValueType} : Exact t → t.nullable = false → Exact (.option t)
  | list {t : ValueType} : Exact t → Exact (.list t)

theorem encode_ne_null {t : ValueType} (h : t.nullable = false) (x : t.Carrier) :
    t.encode x ≠ .null := by
  cases t with
  | value => exact absurd h (by decide)
  | option t => exact absurd h (by simp [nullable])
  | integer t =>
      rw [encode]
      exact IntegerType.encode_ne_null x
  | bool => exact Value.noConfusion
  | single => exact Value.noConfusion
  | double => exact Value.noConfusion
  | text => exact Value.noConfusion
  | char => exact Value.noConfusion
  | list t => exact Value.noConfusion

theorem decodeChar_singleton (c : Char) : decodeChar (.text (String.singleton c)) = .ok c := by
  simp [decodeChar]

/-- An option that is there is read as its value is. -/
theorem decode_option_of_ne_null {t : ValueType} {v : Value} (h : v ≠ .null) :
    (ValueType.option t).decode v = (t.decode v).map some := by
  cases v with
  | null => exact absurd rfl h
  | _ => rfl

/-- Items that are read back one by one are read back together. -/
theorem decodeItems_map {α : Type} {encode : α → Value} {decode : Value → Except Failure α}
    (h : ∀ x, decode (encode x) = .ok x) (xs : List α) :
    decodeItems decode (xs.map encode) = .ok xs := by
  induction xs with
  | nil => rfl
  | cons x xs ih =>
      rw [List.map_cons, decodeItems, h, ih]
      rfl

/-- **What is bound is read back.**  Every value of an exact type is what its bound value is
read as, and an integer that does not fit a signed word is bound as its decimal text. -/
theorem decode_encode_exact :
    (∀ {t : ValueType}, t.Exact → ∀ x : t.Carrier, t.decode (t.encode x) = .ok x) ∧
      ∀ (t : IntegerType) (n : t.Carrier), IntegerType.i64.greatest < n.val →
        (ValueType.integer t).encode n = .decimal (toString n.val) := by
  refine ⟨?_, ?_⟩
  · intro t ht
    induction ht with
    | bool => intro x; rfl
    | integer t =>
        intro n
        rw [encode, decode]
        exact IntegerType.decode_encode n
    | text => intro x; rfl
    | char => intro c; exact decodeChar_singleton c
    | value => intro x; rfl
    | option _ hnull ih =>
        intro x
        cases x with
        | none => rfl
        | some x =>
            rw [encode, decode_option_of_ne_null (encode_ne_null hnull x), ih]
            rfl
    | list _ ih =>
        intro xs
        rw [encode, decode]
        exact decodeItems_map ih xs
  · intro t n h
    rw [encode]
    exact IntegerType.encode_of_gt h

/-- Lists of optional numbers, empty ones among them, the greatest number as its text. -/
theorem decode_encode_exact_nested :
    let t : ValueType := .list (.list (.option (.integer .u64)))
    let greatest : IntegerType.u64.Carrier := ⟨18446744073709551615, by decide⟩
    let xs : t.Carrier := [[], [none, some greatest], [some ⟨0, by decide⟩]]
    t.Exact ∧ IntegerType.i64.greatest < greatest.val ∧
      t.encode xs = .list [.list [], .list [.null, .decimal "18446744073709551615"],
        .list [.int 0]] ∧
      t.decode (t.encode xs) = .ok xs := by
  intro t greatest xs
  have ht : t.Exact := .list (.list (.option (.integer .u64) rfl))
  have hgreatest : IntegerType.i64.greatest < greatest.val := by decide
  have htext := decode_encode_exact.2 .u64 greatest hgreatest
  have hdigits : toString greatest.val = "18446744073709551615" := by decide +kernel
  rw [hdigits] at htext
  refine ⟨ht, hgreatest, ?_, decode_encode_exact.1 ht xs⟩
  show Value.list [.list [], .list [.null, (ValueType.integer .u64).encode greatest],
    .list [.int 0]] = _
  rw [htext]

end ValueType

end QueryMethods
