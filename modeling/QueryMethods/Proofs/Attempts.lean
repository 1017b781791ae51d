/-
Attempts in a row.

What is read, resolved or generated piece by piece stops at the first piece that fails.  So the
whole succeeds exactly if each piece does, and what it is then made of stands side by side with
what it was made from.  `mapM_eq_ok_iff` and `mapM_eq_some_iff` say that as a relation between two
lists, for failures with a reason and without, and everything that is needed of a run of attempts
is then a fact about two related lists.
-/
import Mathlib.Data.List.Forall2

namespace QueryMethods

section

variable {ε α β γ : Type} {as : List α} {bs : List β} {R : α → β → Prop}

/-! ### Lists side by side -/

/-- Related elements that agree in something agree in it all along their lists. -/
theorem map_eq_map_of_forall₂ (hR : List.Forall₂ R as bs) {g : β → γ} {k : α → γ}
    (h : ∀ a b, R a b → g b = k a) : bs.map g = as.map k := by
  induction hR with
  | nil => rfl
  | @cons a b as bs hab _ ih => rw [List.map_cons, List.map_cons, h a b hab, ih]

/-- A list has one that is related to it if each of its elements is related to something. -/
theorem exists_forall₂_iff : (∃ bs, List.Forall₂ R as bs) ↔ ∀ a ∈ as, ∃ b, R a b := by
  induction as with
  | nil => exact iff_of_true ⟨[], .nil⟩ (by simp)
  | cons a as ih =>
      rw [List.forall_mem_cons, ← ih]
      constructor
      · rintro ⟨bs, hbs⟩
        obtain ⟨b, rest, hab, hrest, -⟩ := List.forall₂_cons_left_iff.mp hbs
        exact ⟨⟨b, hab⟩, rest, hrest⟩
      · rintro ⟨⟨b, hab⟩, bs, hbs⟩
        exact ⟨b :: bs, .cons hab hbs⟩

theorem exists_mem_of_forall₂ (hR : List.Forall₂ R as bs) {a : α} (ha : a ∈ as) :
    ∃ b ∈ bs, R a b := by
  induction hR with
  | nil => exact absurd ha List.not_mem_nil
  | cons hab _ ih =>
      rcases List.mem_cons.mp ha with rfl | ha
      · exact ⟨_, List.mem_cons_self, hab⟩
      · obtain ⟨b, hb, hab⟩ := ih ha
        exact ⟨b, List.mem_cons_of_mem _ hb, hab⟩

/-- Related to what is related to the elements of one list is related to the elements of both. -/
theorem forall₂_iff_of_forall₂ {S : β → γ → Prop} {T : α → γ → Prop} {cs : List γ}
    (hR : List.Forall₂ R as bs) (h : ∀ a b c, R a b → (S b c ↔ T a c)) :
    List.Forall₂ S bs cs ↔ List.Forall₂ T as cs := by
  induction hR generalizing cs with
  | nil => rw [List.forall₂_nil_left_iff, List.forall₂_nil_left_iff]
  | @cons a b as bs hab _ ih =>
      cases cs with
      | nil => simp
      | cons c cs => rw [List.forall₂_cons, List.forall₂_cons, h a b c hab, ih]

/-! ### One attempt after the other -/

theorem exists_of_bind_eq_ok {x : Except ε α} {f : α → Except ε β} {b : β}
    (h : (x >>= f) = .ok b) : ∃ a, x = .ok a ∧ f a = .ok b := by
  cases x with
  | error e => exact absurd h (by simp [bind, Except.bind])
  | ok a => exact ⟨a, rfl, h⟩

theorem mapM_eq_ok_iff {f : α → Except ε β} :
    as.mapM f = .ok bs ↔ List.Forall₂ (fun a b => f a = .ok b) as bs := by
  induction as generalizing bs with
  | nil =>
      rw [List.mapM_nil, List.forall₂_nil_left_iff]
      exact (Except.ok.injEq _ _).to_iff.trans eq_comm
  | cons a as ih =>
      rw [List.mapM_cons, List.forall₂_cons_left_iff]
      constructor
      · intro h
        obtain ⟨b, hb, h⟩ := exists_of_bind_eq_ok h
        obtain ⟨rest, hrest, h⟩ := exists_of_bind_eq_ok h
        exact ⟨b, rest, hb, ih.mp hrest, (Except.ok.inj h).symm⟩
      · rintro ⟨b, rest, hb, hrest, rfl⟩
        rw [hb, ih.mpr hrest]
        rfl

theorem mapM_eq_some_iff {f : α → Option β} :
    as.mapM f = some bs ↔ List.Forall₂ (fun a b => f a = some b) as bs := by
  induction as generalizing bs with
  | nil =>
      rw [List.mapM_nil, List.forall₂_nil_left_iff]
      exact Option.some_inj.trans eq_comm
  | cons a as ih =>
      rw [List.mapM_cons, List.forall₂_cons_left_iff]
      constructor
      · intro h
        obtain ⟨b, hb, h⟩ := Option.bind_eq_some_iff.mp h
        obtain ⟨rest, hrest, h⟩ := Option.bind_eq_some_iff.mp h
        exact ⟨b, rest, hb, ih.mp hrest, (Option.some.inj h).symm⟩
      · rintro ⟨b, rest, hb, hrest, rfl⟩
        rw [hb, ih.mpr hrest]
        rfl

end

end QueryMethods
