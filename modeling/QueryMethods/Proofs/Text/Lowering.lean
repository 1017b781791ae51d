/-
Lowered characters stay as they are.

Beyond ASCII, lowering is given by runs of code points that move by a fixed distance, and by the
few characters that become several.  That what comes out is lowered once and for all is a fact about
those lists: no run lands where lowering moves anything in turn.  Most runs lie apart from where
another one lands, and the rest go in steps of two and pass between each other, so the fact is
checked on the ends and the steps of the runs and not character by character.

For that check everything that lowering moves is written as runs, `loweredRuns`: the capitals of
ASCII are one run, and a character that becomes several is a run of its own.

The other fact is about the way back to ASCII.  A character beyond it may be lowered to one of its
letters, but only the sign for kelvin is.
-/
import QueryMethods.Naming

namespace QueryMethods.Text

open Property

/-! ### Letters of ASCII as ranges -/

theorem isAsciiUpper_iff {c : Char} : isAsciiUpper c = true ↔ 65 ≤ c.toNat ∧ c.toNat ≤ 90 := by
  show decide (c.val ≥ 'A'.val ∧ c.val ≤ 'Z'.val) = true ↔ _
  rw [decide_eq_true_iff, ge_iff_le, UInt32.le_iff_toNat_le, UInt32.le_iff_toNat_le]
  rfl

theorem isAsciiLower_iff {c : Char} : isAsciiLower c = true ↔ 97 ≤ c.toNat ∧ c.toNat ≤ 122 := by
  show (decide (c.val ≥ 97) && decide (c.val ≤ 122)) = true ↔ _
  rw [Bool.and_eq_true, decide_eq_true_iff, decide_eq_true_iff, ge_iff_le,
    UInt32.le_iff_toNat_le, UInt32.le_iff_toNat_le]
  rfl

theorem isAsciiUpper_of_gt {c : Char} (h : 90 < c.toNat) : isAsciiUpper c = false := by
  rw [Bool.eq_false_iff, ne_eq, isAsciiUpper_iff]
  omega

theorem isAsciiLower_of_gt {c : Char} (h : 122 < c.toNat) : isAsciiLower c = false := by
  rw [Bool.eq_false_iff, ne_eq, isAsciiLower_iff]
  omega

/-! ### Where a run lands -/

namespace CaseRun

variable {r s : CaseRun} {code : Nat}

theorem covers_iff :
    r.covers code = true ↔ r.first ≤ code ∧ code ≤ r.last ∧ (code - r.first) % r.step = 0 := by
  simp [covers, and_assoc]

/-- Whether a run lands on characters only. -/
def landsOnCharacters (r : CaseRun) : Bool :=
  0 ≤ r.first + r.shift && (r.last + r.shift < 0xd800 ||
    0xdfff < r.first + r.shift && r.last + r.shift < 0x110000)

/-- The code points that a run lands on. -/
def landing (r : CaseRun) : CaseRun :=
  ⟨(r.first + r.shift).toNat, (r.last + r.shift).toNat, r.step, 0⟩

/-- Whether the ends and the steps of two runs show that they have no code point in common. -/
def apart (r s : CaseRun) : Bool :=
  Nat.blt r.last s.first || Nat.blt s.last r.first ||
    (r.step == 2 || r.first == r.last) && s.step == 2 && (r.first + s.first) % 2 == 1

theorem toNat_target (hlands : r.landsOnCharacters = true) (hcovers : r.covers code = true) :
    ((r.target code).toNat : Int) = code + r.shift := by
  obtain ⟨hfirst, hlast, -⟩ := covers_iff.mp hcovers
  simp only [landsOnCharacters, Bool.and_eq_true, Bool.or_eq_true, decide_eq_true_eq] at hlands
  have hvalid : (code + r.shift).toNat.isValidChar := by
    rw [Nat.isValidChar]
    omega
  have htoNat : (r.target code).toNat = (code + r.shift).toNat := by
    rw [target, Char.ofNat, dif_pos hvalid]
    rfl
  omega

theorem landing_covers (hlands : r.landsOnCharacters = true) (hcovers : r.covers code = true) :
    r.landing.covers (r.target code).toNat = true := by
  have htarget := toNat_target hlands hcovers
  obtain ⟨hfirst, hlast, hstep⟩ := covers_iff.mp hcovers
  simp only [landsOnCharacters, Bool.and_eq_true, decide_eq_true_eq] at hlands
  have hoffset : (r.target code).toNat - (r.first + r.shift).toNat = code - r.first := by omega
  refine covers_iff.mpr ⟨?_, ?_, ?_⟩
  · simp only [landing]
    omega
  · simp only [landing]
    omega
  · simp only [landing, hoffset]
    exact hstep

theorem not_covers_of_apart (hapart : r.apart s = true) (hr : r.covers code = true) :
    s.covers code = false := by
  obtain ⟨hfirst, hlast, hstep⟩ := covers_iff.mp hr
  rw [Bool.eq_false_iff]
  intro hs
  obtain ⟨hsfirst, hslast, hsstep⟩ := covers_iff.mp hs
  simp only [apart, Bool.and_eq_true, Bool.or_eq_true, Nat.blt_eq, beq_iff_eq] at hapart
  rcases hapart with (hbelow | habove) | ⟨⟨hr2, hs2⟩, hodd⟩
  · omega
  · omega
  · -- Both go in steps of two, from code points that differ by an odd number.
    rw [hs2] at hsstep
    rcases hr2 with hr2 | hpoint
    · rw [hr2] at hstep
      omega
    · omega

end CaseRun

/-! ### Everything that lowering moves -/

/-- What lowering moves, as runs. -/
def loweredRuns : List CaseRun :=
  ⟨0x41, 0x5a, 1, 32⟩ :: (lowerRuns ++ lowerSeveral.map fun p => ⟨p.1, p.1, 1, 0⟩)

theorem lowerRuns_land : lowerRuns.all CaseRun.landsOnCharacters = true := by decide +kernel

theorem lowerRuns_apart :
    (lowerRuns.all fun r => loweredRuns.all r.landing.apart) = true := by decide +kernel

theorem lower_of_ascii {c : Char} (h : c.toNat < 128) : lower c = [c.toLower] := if_pos h

theorem lower_of_not_ascii {c : Char} (h : 128 ≤ c.toNat) :
    lower c = mapCase lowerRuns lowerSeveral c := if_neg (Nat.not_lt.mpr h)

theorem mapCase_of_uncovered {runs : List CaseRun} {several : List (Nat × List Nat)} {c : Char}
    (hruns : ∀ r ∈ runs, r.covers c.toNat = false) (hseveral : ∀ p ∈ several, p.1 ≠ c.toNat) :
    mapCase runs several c = [c] := by
  have hlookup : several.lookup c.toNat = none := by
    rw [List.lookup_eq_none_iff]
    intro p hp
    simpa using (hseveral p hp).symm
  have hfind : runs.find? (·.covers c.toNat) = none := by
    rw [List.find?_eq_none]
    intro r hr
    simp [hruns r hr]
  rw [mapCase, hlookup]
  simp only [hfind]

/-- A character that no run covers is lowered to itself. -/
theorem lower_of_uncovered {c : Char} (h : ∀ r ∈ loweredRuns, r.covers c.toNat = false) :
    lower c = [c] := by
  simp only [loweredRuns, List.mem_cons, List.mem_append, List.mem_map] at h
  rcases Nat.lt_or_ge c.toNat 128 with hascii | hbeyond
  · have hcapital : ¬(c.val ≥ 'A'.val ∧ c.val ≤ 'Z'.val) := by
      intro hrange
      have hcovers := h _ (Or.inl rfl)
      rw [Bool.eq_false_iff] at hcovers
      exact hcovers (CaseRun.covers_iff.mpr ⟨UInt32.le_iff_toNat_le.mp hrange.1,
        UInt32.le_iff_toNat_le.mp hrange.2, Nat.mod_one _⟩)
    have hkept : c.toLower = c := dif_neg hcapital
    rw [lower_of_ascii hascii, hkept]
  · rw [lower_of_not_ascii hbeyond]
    refine mapCase_of_uncovered (fun r hr => h r (Or.inr (Or.inl hr))) ?_
    intro p hp hcode
    have hcovers := h _ (Or.inr (Or.inr ⟨p, hp, rfl⟩))
    simp [CaseRun.covers, hcode] at hcovers

/-- The ways in which a character is lowered. -/
inductive Lowers (c : Char) : List Char → Prop
  | ascii : c.toNat < 128 → Lowers c [c.toLower]
  | moved {r : CaseRun} : 128 ≤ c.toNat → r ∈ lowerRuns → r.covers c.toNat = true →
      Lowers c [r.target c.toNat]
  | several {codes : List Nat} : 128 ≤ c.toNat → (c.toNat, codes) ∈ lowerSeveral →
      Lowers c (codes.map Char.ofNat)
  | kept : 128 ≤ c.toNat → lower c = [c] → Lowers c [c]

theorem lowers_lower (c : Char) : Lowers c (lower c) := by
  rcases Nat.lt_or_ge c.toNat 128 with hascii | hbeyond
  · rw [lower_of_ascii hascii]
    exact .ascii hascii
  · have hlower : lower c = mapCase lowerRuns lowerSeveral c := lower_of_not_ascii hbeyond
    cases hseveral : lowerSeveral.lookup c.toNat with
    | some codes =>
        obtain ⟨before, after, hlist, -⟩ := List.lookup_eq_some_iff.mp hseveral
        have hmem : (c.toNat, codes) ∈ lowerSeveral := by simp [hlist]
        rw [hlower, mapCase, hseveral]
        exact .several hbeyond hmem
    | none =>
        cases hrun : lowerRuns.find? (·.covers c.toNat) with
        | some r =>
            have hcovers : r.covers c.toNat = true := by simpa using List.find?_some hrun
            rw [hlower, mapCase, hseveral]
            simp only [hrun]
            exact .moved hbeyond (List.mem_of_find?_eq_some hrun) hcovers
        | none =>
            have hkept : lower c = [c] := by
              rw [hlower, mapCase, hseveral]
              simp only [hrun]
            rw [hkept]
            exact .kept hbeyond hkept

/-! ### Lowering again -/

theorem lower_lowered_ascii :
    ∀ code < 128, lower (Char.ofNat code).toLower = [(Char.ofNat code).toLower] := by
  decide +kernel

theorem lower_lowered_several :
    ∀ p ∈ lowerSeveral, ∀ code ∈ p.2, lower (Char.ofNat code) = [Char.ofNat code] := by
  decide +kernel

/-- **What lowering gives is lowered to itself.** -/
theorem lower_eq_self_of_mem {c d : Char} (h : d ∈ lower c) : lower d = [d] := by
  have hlowers := lowers_lower c
  generalize lower c = ds at h hlowers
  cases hlowers with
  | ascii hascii =>
      obtain rfl := List.mem_singleton.mp h
      have hlower := lower_lowered_ascii c.toNat hascii
      rwa [Char.ofNat_toNat] at hlower
  | moved _ hr hcovers =>
      obtain rfl := List.mem_singleton.mp h
      have hlands := List.all_eq_true.mp lowerRuns_land _ hr
      refine lower_of_uncovered fun s hs => ?_
      exact CaseRun.not_covers_of_apart
        (List.all_eq_true.mp (List.all_eq_true.mp lowerRuns_apart _ hr) s hs)
        (CaseRun.landing_covers hlands hcovers)
  | several _ hmem =>
      obtain ⟨code, hcode, rfl⟩ := List.mem_map.mp h
      exact lower_lowered_several _ hmem code hcode
  | kept _ hkept =>
      obtain rfl := List.mem_singleton.mp h
      exact hkept

theorem lower_of_isAsciiUpper {c : Char} (h : isAsciiUpper c = true) : lower c = [c.toLower] := by
  have hrange := isAsciiUpper_iff.mp h
  exact lower_of_ascii (by omega)

/-- A capital of ASCII is not lowered to itself. -/
theorem isAsciiUpper_of_lower_eq_self {c : Char} (h : lower c = [c]) : isAsciiUpper c = false := by
  have hascii : ∀ code < 128, isAsciiUpper (Char.ofNat code).toLower = false := by decide +kernel
  rw [Bool.eq_false_iff]
  intro hupper
  have hrange := isAsciiUpper_iff.mp hupper
  have hlowered := hascii c.toNat (by omega)
  rw [lower_of_isAsciiUpper hupper, List.singleton_inj] at h
  rw [Char.ofNat_toNat, h, hupper] at hlowered
  exact Bool.noConfusion hlowered

/-! ### Back to ASCII -/

/-- The sign for kelvin, which is lowered to a letter of ASCII. -/
def kelvinSign : Char := '\u212a'

theorem lowerRuns_beyond_letters :
    ∀ r ∈ lowerRuns, 122 < r.first + r.shift ∨
      r.first = kelvinSign.toNat ∧ r.last = kelvinSign.toNat := by decide +kernel

theorem lowerSeveral_beyond_letters :
    ∀ p ∈ lowerSeveral,
      (p.2.map Char.ofNat).getLast?.any (fun last => !isAsciiLower last) = true := by
  decide +kernel

theorem isAsciiLower_toLower_ascii :
    ∀ code < 128, isAsciiLower (Char.ofNat code).toLower =
      (isAsciiLower (Char.ofNat code) || isAsciiUpper (Char.ofNat code) ||
        Char.ofNat code == kelvinSign) := by decide +kernel

/-- Lowering ends in a letter of ASCII for the letters of ASCII and for the sign for kelvin. -/
theorem exists_getLast?_lower (c : Char) :
    ∃ last, (lower c).getLast? = some last ∧
      isAsciiLower last = (isAsciiLower c || isAsciiUpper c || c == kelvinSign) := by
  by_cases hkelvin : c = kelvinSign
  · rw [hkelvin]
    exact ⟨'k', rfl, rfl⟩
  -- Beyond ASCII and without the sign for kelvin, nothing ends in a letter of ASCII.
  have hno : 128 ≤ c.toNat → (isAsciiLower c || isAsciiUpper c || c == kelvinSign) = false := by
    intro hbeyond
    rw [isAsciiLower_of_gt (by omega), isAsciiUpper_of_gt (by omega)]
    simpa using hkelvin
  have hlowers := lowers_lower c
  generalize lower c = ds at hlowers
  cases hlowers with
  | ascii hascii =>
      have hlast := isAsciiLower_toLower_ascii c.toNat hascii
      rw [Char.ofNat_toNat] at hlast
      exact ⟨c.toLower, rfl, hlast⟩
  | @moved r hbeyond hr hcovers =>
      obtain ⟨hfirst, hlast, -⟩ := CaseRun.covers_iff.mp hcovers
      have htarget := CaseRun.toNat_target (List.all_eq_true.mp lowerRuns_land r hr) hcovers
      refine ⟨r.target c.toNat, rfl, ?_⟩
      rw [hno hbeyond]
      rcases lowerRuns_beyond_letters r hr with habove | ⟨hsign, hsign'⟩
      · exact isAsciiLower_of_gt (by omega)
      · exact absurd (Char.toNat_inj.mp (by omega)) hkelvin
  | several hbeyond hmem =>
      obtain ⟨last, hlast, hletter⟩ :=
        (Option.any_eq_true _ _).mp (lowerSeveral_beyond_letters _ hmem)
      exact ⟨last, hlast, by rw [hno hbeyond]; simpa using hletter⟩
  | kept hbeyond _ =>
      exact ⟨c, rfl, by rw [hno hbeyond]; exact isAsciiLower_of_gt (by omega)⟩

end QueryMethods.Text
