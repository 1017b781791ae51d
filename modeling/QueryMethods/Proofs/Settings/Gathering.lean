/-
Problems that are collected.

Settings are read to the end before they are refused, and what several of them are made of is
refused with the problems of each, in order.  `problemsOf` names the problems of a result, so
that this can be said without a case for every result that may be refused.

A result that is refused names a problem.  `Reasoned` says so, which makes an empty list of
problems the same as success.
-/
import QueryMethods.Settings.Gather
import QueryMethods.Settings.Query

namespace QueryMethods

open Syntax (Attribute)

/-! ### Results and their problems -/

section

variable {ε α β : Type}

/-- The problems that stand in the place of a value. -/
def problemsOf : Except (List ε) α → List ε
  | .ok _ => []
  | .error ps => ps

theorem problemsOf_map (f : α → β) (r : Except (List ε) α) :
    problemsOf (r.map f) = problemsOf r := by
  cases r with
  | ok a => rfl
  | error ps => rfl

theorem problemsOf_both (r : Except (List ε) α) (q : Except (List ε) β) :
    problemsOf (both r q) = problemsOf r ++ problemsOf q := by
  cases r with
  | ok a => cases q <;> rfl
  | error ps =>
      cases q with
      | ok b => exact (List.append_nil ps).symm
      | error qs => rfl

theorem problemsOf_gather (rs : List (Except (List ε) α)) :
    problemsOf (gather rs) = rs.flatMap problemsOf := by
  induction rs with
  | nil => rfl
  | cons r rs ih => rw [gather, problemsOf_map, problemsOf_both, ih, List.flatMap_cons]

theorem both_eq_ok {r : Except (List ε) α} {q : Except (List ε) β} {a : α} {b : β} :
    both r q = .ok (a, b) ↔ r = .ok a ∧ q = .ok b := by
  cases r with
  | ok a' => cases q <;> simp [both]
  | error ps => cases q <;> simp [both]

theorem map_eq_ok {f : α → β} {r : Except ε α} {b : β} :
    r.map f = .ok b ↔ ∃ a, r = .ok a ∧ f a = b := by
  cases r <;> simp [Except.map]

theorem alone_eq_ok {r : Except ε α} {a : α} : alone r = .ok a ↔ r = .ok a := by
  cases r with
  | ok b =>
      have halone : alone (.ok b : Except ε α) = .ok b := rfl
      rw [halone, Except.ok.injEq, Except.ok.injEq]
  | error e =>
      have halone : alone (.error e : Except ε α) = .error [e] := rfl
      simp [halone]

theorem exists_of_isSome_toOption {r : Except ε α} (h : r.toOption.isSome = true) :
    ∃ a, r = .ok a := by
  cases r with
  | ok a => exact ⟨a, rfl⟩
  | error e => simp [Except.toOption] at h

theorem gather_eq_ok {rs : List (Except (List ε) α)} :
    ∀ {xs : List α}, gather rs = .ok xs ↔ rs = xs.map .ok := by
  induction rs with
  | nil =>
      intro xs
      cases xs <;> simp [gather]
  | cons r rs ih =>
      intro xs
      rw [gather, map_eq_ok]
      constructor
      · rintro ⟨⟨y, ys⟩, hboth, rfl⟩
        obtain ⟨rfl, hrest⟩ := both_eq_ok.mp hboth
        rw [ih.mp hrest]
        rfl
      · intro h
        cases xs with
        | nil => simp at h
        | cons x xs =>
            obtain ⟨rfl, hrest⟩ := List.cons.inj h
            exact ⟨(x, xs), both_eq_ok.mpr ⟨rfl, ih.mpr hrest⟩, rfl⟩

/-! ### Nothing is refused without a problem -/

/-- Where there is no problem there is a value. -/
def Reasoned (r : Except (List ε) α) : Prop := problemsOf r = [] → ∃ a, r = .ok a

namespace Reasoned

theorem map {r : Except (List ε) α} (h : Reasoned r) (f : α → β) : Reasoned (r.map f) := by
  intro hnone
  rw [problemsOf_map] at hnone
  obtain ⟨a, rfl⟩ := h hnone
  exact ⟨f a, rfl⟩

theorem both {r : Except (List ε) α} {q : Except (List ε) β} (hr : Reasoned r)
    (hq : Reasoned q) : Reasoned (both r q) := by
  intro hnone
  rw [problemsOf_both, List.append_eq_nil_iff] at hnone
  obtain ⟨a, rfl⟩ := hr hnone.1
  obtain ⟨b, rfl⟩ := hq hnone.2
  exact ⟨(a, b), rfl⟩

theorem gather {rs : List (Except (List ε) α)} (h : ∀ r ∈ rs, Reasoned r) :
    Reasoned (gather rs) := by
  induction rs with
  | nil => exact fun _ => ⟨[], rfl⟩
  | cons r rs ih =>
      have hrest := ih (fun q hq => h q (List.mem_cons_of_mem r hq))
      exact ((h r List.mem_cons_self).both hrest).map _

theorem alone (r : Except ε α) : Reasoned (alone r) := by
  intro hnone
  cases r with
  | ok a => exact ⟨a, rfl⟩
  | error e => exact absurd hnone (List.cons_ne_nil e [])

end Reasoned

theorem Reading.finish_reasoned (r : Reading α) : Reasoned r.finish := by
  intro hnone
  by_cases hempty : r.problems.isEmpty = true
  · exact ⟨r.value, by rw [finish, if_pos hempty]⟩
  · rw [finish, if_neg hempty] at hnone
    exact absurd (List.isEmpty_iff.mpr hnone) hempty

end

theorem QuerySettings.ofMeta_reasoned (m : Syntax.Meta) : Reasoned (ofMeta m) := by
  rw [ofMeta]
  split
  · split
    · exact Reading.finish_reasoned _
    · simp [Reasoned, problemsOf]
  · split
    · exact fun _ => ⟨_, rfl⟩
    · simp [Reasoned, problemsOf]

theorem QuerySettings.ofAttributes_reasoned (attributes : List Attribute) :
    Reasoned (ofAttributes attributes) := by
  rw [ofAttributes]
  split
  · exact fun _ => ⟨none, rfl⟩
  · exact (ofMeta_reasoned _).map some
  · simp [Reasoned, problemsOf]

end QueryMethods
