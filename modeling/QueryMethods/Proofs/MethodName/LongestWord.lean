/-
The comparison that a condition ends with.

Some comparison words end with others, as `NotIn` does with `In`, so of all the words
that a condition ends with the longest one counts.  `longestComparison?` finds it by
one pass over the comparisons that keeps the longest word met so far; what is proved
here is that the pass ends with a longest word, and that there is only one: words of
one length at the end of one text are the same word, and no two comparisons share one.
-/
import QueryMethods.MethodName.Reader

namespace QueryMethods

namespace Comparison

theorem mem_all (c : Comparison) : c ∈ all := by
  cases c <;> decide

theorem keyword_injective {a b : Comparison} (h : a.keyword = b.keyword) : a = b := by
  have hall : ∀ a ∈ all, ∀ b ∈ all, a.keyword = b.keyword → a = b := by decide +kernel
  exact hall a (mem_all a) b (mem_all b) h

end Comparison

/-- A word ends a condition when it is a proper suffix. -/
theorem endsWithComparison_iff {s : List Char} {c : Comparison} :
    endsWithComparison s c = true ↔
      c.keyword.toList.length < s.length ∧ c.keyword.toList <:+ s := by
  simp [endsWithComparison]

/-- One step of the pass, named so the proofs can talk about it. -/
private def keepLonger (best : Option Comparison) (c : Comparison) : Option Comparison :=
  match best with
  | some b => if c.keyword.length < b.keyword.length then some b else some c
  | none => some c

private theorem longestComparison?_fold (s : List Char) :
    longestComparison? s = (Comparison.all.filter (endsWithComparison s)).foldl keepLonger none :=
  rfl

private theorem keepLonger_spec (best : Option Comparison) (c : Comparison) :
    ∃ r, keepLonger best c = some r ∧ (best = some r ∨ r = c) ∧
      c.keyword.length ≤ r.keyword.length ∧
      ∀ b, best = some b → b.keyword.length ≤ r.keyword.length := by
  cases best with
  | none => exact ⟨c, rfl, Or.inr rfl, Nat.le_refl _, by simp⟩
  | some b =>
      rw [keepLonger]
      by_cases h : c.keyword.length < b.keyword.length
      · exact ⟨b, if_pos h, Or.inl rfl, Nat.le_of_lt h, by simp⟩
      · refine ⟨c, if_neg h, Or.inr rfl, Nat.le_refl _, ?_⟩
        intro b' hb'
        cases hb'
        exact Nat.le_of_not_lt h

private theorem fold_spec (l : List Comparison) : ∀ best : Option Comparison,
    (∀ r, l.foldl keepLonger best = some r → best = some r ∨ r ∈ l) ∧
    ∀ c, best = some c ∨ c ∈ l →
      ∃ r, l.foldl keepLonger best = some r ∧ c.keyword.length ≤ r.keyword.length := by
  induction l with
  | nil =>
      intro best
      refine ⟨fun r h => Or.inl h, ?_⟩
      intro c hc
      exact ⟨c, by simpa using hc, Nat.le_refl _⟩
  | cons x rest ih =>
      intro best
      obtain ⟨hfrom, hlong⟩ := ih (keepLonger best x)
      obtain ⟨k, hk, hkfrom, hxk, hbk⟩ := keepLonger_spec best x
      rw [List.foldl_cons]
      refine ⟨?_, ?_⟩
      · intro r hr
        rcases hfrom r hr with h | h
        · rw [hk, Option.some.injEq] at h
          subst h
          rcases hkfrom with h | rfl
          · exact Or.inl h
          · exact Or.inr (by simp)
        · exact Or.inr (by simp [h])
      · intro c hc
        have hcase : c ∈ rest ∨ c.keyword.length ≤ k.keyword.length := by
          rcases hc with hc | hc
          · exact Or.inr (hbk c hc)
          · rcases List.mem_cons.mp hc with rfl | hc
            · exact Or.inr hxk
            · exact Or.inl hc
        rcases hcase with hc | hle
        · exact hlong c (Or.inr hc)
        · obtain ⟨r, hr, hkr⟩ := hlong k (Or.inl hk)
          exact ⟨r, hr, Nat.le_trans hle hkr⟩

/-- Two words of one length at the end of one text are the same word. -/
theorem eq_of_endsWithComparison {s : List Char} {a b : Comparison}
    (ha : endsWithComparison s a = true) (hb : endsWithComparison s b = true)
    (hlen : a.keyword.length = b.keyword.length) : a = b := by
  obtain ⟨-, hsa⟩ := endsWithComparison_iff.mp ha
  obtain ⟨-, hsb⟩ := endsWithComparison_iff.mp hb
  have hlist : a.keyword.toList.length = b.keyword.toList.length := by
    rw [String.length_toList, String.length_toList, hlen]
  have hsuffix : a.keyword.toList <:+ b.keyword.toList :=
    List.suffix_of_suffix_length_le hsa hsb (Nat.le_of_eq hlist)
  exact Comparison.keyword_injective (String.toList_inj.mp (hsuffix.eq_of_length hlist))

/-- **The comparison found is the one with the longest word at the end of the text.** -/
theorem longestComparison?_eq_some_iff {s : List Char} {c : Comparison} :
    longestComparison? s = some c ↔ endsWithComparison s c = true ∧
      ∀ d, endsWithComparison s d = true → d.keyword.length ≤ c.keyword.length := by
  rw [longestComparison?_fold]
  obtain ⟨hfrom, hlong⟩ := fold_spec (Comparison.all.filter (endsWithComparison s)) none
  have hends : ∀ r, (Comparison.all.filter (endsWithComparison s)).foldl keepLonger none = some r →
      endsWithComparison s r = true := by
    intro r hr
    rcases hfrom r hr with h | h
    · simp at h
    · exact (List.mem_filter.mp h).2
  have hmem : ∀ d, endsWithComparison s d = true →
      d ∈ Comparison.all.filter (endsWithComparison s) :=
    fun d hd => List.mem_filter.mpr ⟨Comparison.mem_all d, hd⟩
  constructor
  · intro h
    refine ⟨hends c h, ?_⟩
    intro d hd
    obtain ⟨r, hr, hle⟩ := hlong d (Or.inr (hmem d hd))
    rw [h, Option.some.injEq] at hr
    rw [hr]
    exact hle
  · rintro ⟨hc, hmax⟩
    obtain ⟨r, hr, hle⟩ := hlong c (Or.inr (hmem c hc))
    have hrc : r = c :=
      eq_of_endsWithComparison (hends r hr) hc (Nat.le_antisymm (hmax r (hends r hr)) hle)
    rw [hr, hrc]

theorem longestComparison?_eq_none_iff {s : List Char} :
    longestComparison? s = none ↔ ∀ d, endsWithComparison s d = false := by
  constructor
  · intro h d
    rw [Bool.eq_false_iff]
    intro hd
    rw [longestComparison?_fold] at h
    obtain ⟨-, hlong⟩ := fold_spec (Comparison.all.filter (endsWithComparison s)) none
    obtain ⟨r, hr, -⟩ := hlong d (Or.inr (List.mem_filter.mpr ⟨Comparison.mem_all d, hd⟩))
    rw [h] at hr
    simp at hr
  · intro h
    cases hc : longestComparison? s with
    | none => rfl
    | some c =>
        have hends := (longestComparison?_eq_some_iff.mp hc).1
        rw [h c] at hends
        exact absurd hends (by simp)

/-! ### Taking the word off -/

theorem splitComparison_append {s : List Char} {c : Comparison}
    (h : longestComparison? (s ++ c.keyword.toList) = some c) :
    splitComparison (s ++ c.keyword.toList) = (s, c) := by
  rw [splitComparison, h]
  simp [← String.length_toList]

theorem splitComparison_of_none {s : List Char} (h : longestComparison? s = none) :
    splitComparison s = (s, .equal) := by
  rw [splitComparison, h]

end QueryMethods
