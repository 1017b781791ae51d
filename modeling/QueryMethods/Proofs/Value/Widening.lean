/-
Integers read as a wider type.

Reading an integer takes two things of a value: it has to denote an integer for a type of that
width, which is `Denotes`, and the integer has to be in range.  The second is never lost on the way
to a type that holds more values.  The first hangs on the width alone, and there the widest
unsigned types stand apart: they are bound as decimal text where they do not fit a signed word
and read such text back, and they do not read booleans, as every other type does.

A type that holds the values of a widest type is itself one of the two, so text is never lost
either.  What remains is exactly one loss: a boolean that a narrower type reads as zero or one is
no integer to the widest unsigned types.
-/
import QueryMethods.Proofs.Value.RoundTrip

namespace QueryMethods

namespace IntegerType

/-! ### What a value denotes -/

/-- The integer that a value denotes for a type, in range or not. -/
inductive Denotes (t : IntegerType) : Value → Int → Prop
  | int (k : Int64) : Denotes t (.int k) k.toInt
  | bool (b : Bool) : t.isWide = false → Denotes t (.bool b) (if b then 1 else 0)
  | decimal {text : String} {k : Nat} :
      t.isWide = true → readNatural text = some k → Denotes t (.decimal text) k

section

variable {t : IntegerType} {v : Value} {n : t.Carrier}

theorem checked_eq_ok_iff {k : Int} {found : String} : t.checked k found = .ok n ↔ k = n.val := by
  constructor
  · intro h
    rw [checked, ofInt?] at h
    split at h
    · rename_i x hx
      split at hx
      · rw [← Except.ok.inj h, ← Option.some.inj hx]
      · exact absurd hx (by simp)
    · exact absurd h (by simp)
  · rintro rfl
    exact checked_val n found

theorem misfit_ne_ok (v : Value) (expected : String) (n : t.Carrier) :
    v.misfit expected ≠ .ok n := by
  simp [Value.misfit]

theorem decode_eq_ok_of_denotes (h : t.Denotes v n.val) : t.decode v = .ok n := by
  generalize hk : n.val = k at h
  cases h with
  | int k =>
      rw [decode]
      split
      · exact checked_eq_ok_iff.mpr hk.symm
      · exact checked_eq_ok_iff.mpr hk.symm
  | bool b hnarrow =>
      rw [decode, hnarrow]
      exact checked_eq_ok_iff.mpr hk.symm
  | decimal hwide htext =>
      rw [decode, hwide]
      simp only [htext, if_true]
      exact checked_eq_ok_iff.mpr hk.symm

theorem denotes_of_decode_eq_ok (h : t.decode v = .ok n) : t.Denotes v n.val := by
  unfold decode at h
  cases hwide : t.isWide with
  | true =>
      rw [if_pos hwide] at h
      cases v with
      | int k =>
          rw [← checked_eq_ok_iff.mp h]
          exact .int k
      | decimal text =>
          cases htext : readNatural text with
          | none =>
              simp only [htext] at h
              exact absurd h (misfit_ne_ok _ _ _)
          | some k =>
              simp only [htext] at h
              rw [← checked_eq_ok_iff.mp h]
              exact .decimal hwide htext
      | _ => exact absurd h (misfit_ne_ok _ _ _)
  | false =>
      rw [hwide, if_neg Bool.false_ne_true] at h
      cases v with
      | int k =>
          rw [← checked_eq_ok_iff.mp h]
          exact .int k
      | bool b =>
          rw [← checked_eq_ok_iff.mp h]
          exact .bool b hwide
      | _ => exact absurd h (misfit_ne_ok _ _ _)

/-- A value is read as the integer that it denotes. -/
theorem decode_eq_ok_iff : t.decode v = .ok n ↔ t.Denotes v n.val :=
  ⟨denotes_of_decode_eq_ok, decode_eq_ok_of_denotes⟩

/-- The widest unsigned types name themselves by their width when they refuse a boolean. -/
theorem decode_bool_of_isWide (h : t.isWide = true) (b : Bool) :
    t.decode (.bool b) = .error (.decode "u64" "bool") := by
  cases t <;> simp [isWide] at h <;> rfl

/-- Every other type reads truth as one. -/
theorem decode_true_of_not_isWide (h : t.isWide = false) :
    ∃ one : t.Carrier, t.decode (.bool true) = .ok one := by
  have hrange : t.least ≤ 1 ∧ 1 ≤ t.greatest := by cases t <;> decide
  exact ⟨⟨1, hrange⟩, decode_eq_ok_iff.mpr (.bool true h)⟩

end

/-! ### Types that hold the values of others -/

/-- Every value of the one type is a value of the other. -/
def Within (s t : IntegerType) : Prop :=
  ∀ k : Int, s.least ≤ k → k ≤ s.greatest → t.least ≤ k ∧ k ≤ t.greatest

theorem least_le_greatest (t : IntegerType) : t.least ≤ t.greatest := by
  cases t <;> decide

theorem within_iff {s t : IntegerType} :
    s.Within t ↔ t.least ≤ s.least ∧ s.greatest ≤ t.greatest := by
  constructor
  · intro h
    exact ⟨(h s.least (Int.le_refl _) s.least_le_greatest).1,
      (h s.greatest s.least_le_greatest (Int.le_refl _)).2⟩
  · rintro ⟨hleast, hgreatest⟩ k hlow hhigh
    exact ⟨Int.le_trans hleast hlow, Int.le_trans hhigh hgreatest⟩

instance (s t : IntegerType) : Decidable (s.Within t) := decidable_of_iff' _ within_iff

/-- A value of the narrower type as one of the wider. -/
def Within.widen {s t : IntegerType} (h : s.Within t) (n : s.Carrier) : t.Carrier :=
  ⟨n.val, h n.val n.property.1 n.property.2⟩

section

variable {s t : IntegerType} {v : Value} {k : Int}

/-- Only the widest unsigned types hold the values of one of them. -/
theorem Within.isWide (h : s.Within t) (hs : s.isWide = true) : t.isWide = true := by
  have hgreatest : i64.greatest < s.greatest := by
    cases s <;> simp [IntegerType.isWide] at hs <;> decide
  exact t.isWide_of_greatest (Int.lt_of_lt_of_le hgreatest (within_iff.mp h).2)

/-- What a value denotes for a type it denotes for a wider one, unless it is a boolean that the
wider type does not read. -/
theorem Denotes.widen (h : s.Within t) (hdenotes : s.Denotes v k)
    (hbool : t.isWide = true → ∀ b, v ≠ .bool b) : t.Denotes v k := by
  cases hdenotes with
  | int k => exact .int k
  | bool b _ => exact .bool b (Bool.eq_false_iff.mpr (fun hwide => hbool hwide b rfl))
  | decimal hwide htext => exact .decimal (h.isWide hwide) htext

/-- A value that is read is read the same by a wider type, unless it is such a boolean. -/
theorem decode_widen_iff (h : s.Within t) {n : s.Carrier} (hread : s.decode v = .ok n) :
    t.decode v = .ok (h.widen n) ↔ ¬(t.isWide = true ∧ ∃ b, v = .bool b) := by
  constructor
  · rintro hread' ⟨hwide, b, rfl⟩
    rw [decode_bool_of_isWide hwide b] at hread'
    exact absurd hread' (by simp)
  · intro hno
    refine decode_eq_ok_iff.mpr (Denotes.widen h (decode_eq_ok_iff.mp hread) ?_)
    intro hwide b hv
    exact hno ⟨hwide, b, hv⟩

end

/-- **Reading is handed on to a wider type but for booleans at the widest unsigned ones.**

A type that holds all values of another reads everything that the other does, and as the same
integer, unless it is one of the widest unsigned types and the other is not.  What it then does
not read is the booleans, and nothing else. -/
theorem decode_widens_iff {s t : IntegerType} (h : s.Within t) :
    ((∀ v n, s.decode v = .ok n → t.decode v = .ok (h.widen n)) ↔
      (t.isWide = true → s.isWide = true)) ∧
    ∀ v n, s.decode v = .ok n →
      (t.decode v = .ok (h.widen n) ∧ ¬(t.isWide = true ∧ ∃ b, v = .bool b)) ∨
      (t.decode v = .error (.decode "u64" "bool") ∧ t.isWide = true ∧ ∃ b, v = .bool b) := by
  refine ⟨⟨?_, ?_⟩, ?_⟩
  · intro hall hwide
    cases hs : s.isWide with
    | true => rfl
    | false =>
        obtain ⟨one, hone⟩ := decode_true_of_not_isWide hs
        have hkept := (decode_widen_iff h hone).mp (hall _ _ hone)
        exact absurd ⟨hwide, true, rfl⟩ hkept
  · intro hwidths v n hread
    refine (decode_widen_iff h hread).mpr ?_
    rintro ⟨hwide, b, rfl⟩
    rw [decode_bool_of_isWide (hwidths hwide) b] at hread
    exact absurd hread (by simp)
  · intro v n hread
    by_cases hlost : t.isWide = true ∧ ∃ b, v = .bool b
    · obtain ⟨hwide, b, rfl⟩ := hlost
      exact Or.inr ⟨decode_bool_of_isWide hwide b, hwide, b, rfl⟩
    · exact Or.inl ⟨(decode_widen_iff h hread).mpr hlost, hlost⟩

/-- Small unsigned numbers and booleans are handed on to the signed words. -/
theorem decode_widens_iff_u32_i64 :
    ∃ h : u32.Within i64, ∃ n m : u32.Carrier,
      u32.decode (.int 4294967295) = .ok n ∧ i64.decode (.int 4294967295) = .ok (h.widen n) ∧
      u32.decode (.bool true) = .ok m ∧ i64.decode (.bool true) = .ok (h.widen m) := by
  have h : u32.Within i64 := by decide
  have hall := (decode_widens_iff h).1.mpr (by decide)
  have hgreatest : u32.decode (.int 4294967295) = .ok ⟨4294967295, by decide⟩ := rfl
  have hone : u32.decode (.bool true) = .ok ⟨1, by decide⟩ := rfl
  exact ⟨h, _, _, hgreatest, hall _ _ hgreatest, hone, hall _ _ hone⟩

/-- Truth is one to the bytes and no number to the widest unsigned type, which holds them all. -/
theorem decode_true_lost_from_u8 :
    u8.Within u64 ∧ u8.decode (.bool true) = .ok ⟨1, by decide⟩ ∧
      u64.decode (.bool true) = .error (.decode "u64" "bool") :=
  ⟨by decide, rfl, rfl⟩

end IntegerType

end QueryMethods
