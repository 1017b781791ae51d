/-
The flag for strict issues in a list of settings.

Settings are read one after the other, and each changes a field of its own.  So a list with
the flag is read as the list without it, problem by problem, and at the end the flag is set.
`ReadsAlong` is what the two readings keep in common while they go: it holds from the item for
the flag on, and every other item keeps it.

A reading also goes along with itself as long as it has not met the flag, which is how a list
without it leaves the flag off.
-/
import QueryMethods.Proofs.Settings.Gathering
import QueryMethods.Settings.Repository

namespace QueryMethods

open Syntax (Meta)

theorem ValueForm.exists_of_read {α σ : Type} {form : ValueForm α} {name : String}
    {change : α → σ → σ} {m : Meta} {f : σ → σ} (h : (form.setting name change).read m = .ok f) :
    ∃ value, f = change value := by
  obtain ⟨value, -, hf⟩ := map_eq_ok.mp h
  exact ⟨value, hf.symm⟩

theorem Reading.takeItems_append {σ : Type} (settings : List (Setting σ)) (r : Reading σ)
    (xs ys : List SettingItem) :
    r.takeItems settings (xs ++ ys) = (r.takeItems settings xs).takeItems settings ys :=
  List.foldl_append

/-- Whether an item of a list of settings is for the flag. -/
def SettingItem.isStrict : SettingItem → Prop
  | literal _ => False
  | setting m => m.path.text = "strict"

namespace RepositorySettings

/-- No setting of a repository is required. -/
theorem ofItems_eq_finish (items : List SettingItem) :
    ofItems items = (Reading.takeItems all ⟨defaults, [], []⟩ items).finish := rfl

/-- A setting other than the flag neither reads nor writes it. -/
theorem change_strict {setting : Setting RepositorySettings} (hmem : setting ∈ all)
    (hname : setting.name ≠ "strict") {m : Meta} {change : RepositorySettings → RepositorySettings}
    (h : setting.read m = .ok change) (settings : RepositorySettings) (flag : Bool) :
    change { settings with strict := flag } = { change settings with strict := flag } := by
  simp only [all, List.mem_cons, List.not_mem_nil, or_false] at hmem
  rcases hmem with rfl | rfl | rfl | rfl | rfl | rfl | rfl | rfl
  case inr.inr.inr.inr.inr.inr.inr => exact absurd rfl hname
  all_goals
    obtain ⟨value, rfl⟩ := ValueForm.exists_of_read h
    rfl

/-- Two readings of which the second has the flag and the first has not. -/
structure ReadsAlong (flag : Bool) (r r' : Reading RepositorySettings) : Prop where
  value : r'.value = { r.value with strict := flag }
  problems : r'.problems = r.problems
  given : ∀ name, name ≠ "strict" → r'.given.contains name = r.given.contains name
  absent : r.given.contains "strict" = false

variable {flag : Bool} {r r' : Reading RepositorySettings}

theorem ReadsAlong.note (h : ReadsAlong flag r r') (p : Problem) :
    ReadsAlong flag (r.note p) (r'.note p) := by
  refine ⟨h.value, ?_, h.given, h.absent⟩
  show r'.problems ++ [p] = r.problems ++ [p]
  rw [h.problems]

theorem ReadsAlong.meet (h : ReadsAlong flag r r') {met : String} (hmet : met ≠ "strict") :
    ReadsAlong flag { r with given := met :: r.given } { r' with given := met :: r'.given } := by
  refine ⟨h.value, h.problems, ?_, ?_⟩
  · intro name hne
    show (met :: r'.given).contains name = (met :: r.given).contains name
    rw [List.contains_cons, List.contains_cons, h.given name hne]
  · show (met :: r.given).contains "strict" = false
    rw [List.contains_cons, h.absent, Bool.or_false, beq_eq_false_iff_ne]
    exact Ne.symm hmet

/-- An item that is not for the flag is taken in by both readings alike. -/
theorem ReadsAlong.takeItem (h : ReadsAlong flag r r') {item : SettingItem}
    (hitem : ¬ item.isStrict) : ReadsAlong flag (r.takeItem all item) (r'.takeItem all item) := by
  cases item with
  | literal v => exact h.note _
  | setting m =>
      rw [Reading.takeItem, Reading.takeItem]
      cases hfind : all.find? (·.name == m.path.text) with
      | none => exact h.note _
      | some setting =>
          have hname : setting.name = m.path.text := by
            simpa using List.find?_some hfind
          simp only [h.given m.path.text hitem]
          by_cases hgiven : r.given.contains m.path.text = true
          · rw [if_pos hgiven, if_pos hgiven]
            exact h.note _
          · rw [if_neg hgiven, if_neg hgiven]
            have hmet := h.meet hitem
            cases hread : setting.read m with
            | error p => exact hmet.note _
            | ok change =>
                refine ⟨?_, hmet.problems, hmet.given, hmet.absent⟩
                have hother : setting.name ≠ "strict" := by
                  rw [hname]
                  exact hitem
                show change r'.value = { change r.value with strict := flag }
                rw [h.value]
                exact change_strict (List.mem_of_find?_eq_some hfind) hother hread r.value flag

theorem ReadsAlong.takeItems {items : List SettingItem} (hitems : ∀ item ∈ items, ¬ item.isStrict) :
    ∀ {r r' : Reading RepositorySettings}, ReadsAlong flag r r' →
      ReadsAlong flag (r.takeItems all items) (r'.takeItems all items) := by
  induction items with
  | nil => exact fun h => h
  | cons item items ih =>
      intro r r' h
      exact ih (fun other hmem => hitems other (List.mem_cons_of_mem item hmem))
        (h.takeItem (hitems item List.mem_cons_self))

/-- A reading that has not met the flag goes along with itself, the flag being off. -/
theorem readsAlong_start : ReadsAlong false ⟨defaults, [], []⟩ ⟨defaults, [], []⟩ :=
  ⟨rfl, rfl, fun _ _ => rfl, rfl⟩

/-- The item for the flag sets it, where it has not been met. -/
theorem readsAlong_takeItem (habsent : r.given.contains "strict" = false) {m : Meta}
    (hname : m.path.text = "strict") (hvalue : ValueForm.boolean.ofMeta m = .ok flag) :
    ReadsAlong flag r (r.takeItem all (.setting m)) := by
  have hfind : all.find? (·.name == "strict") =
      some (ValueForm.boolean.setting "strict" (fun v s => { s with strict := v })) := rfl
  have hread : (ValueForm.boolean.setting "strict"
      (fun v (s : RepositorySettings) => { s with strict := v })).read m =
      .ok (fun s => { s with strict := flag }) := by
    show (ValueForm.boolean.ofMeta m).map _ = _
    rw [hvalue]
    rfl
  rw [Reading.takeItem]
  simp only [hname, hfind, habsent, hread]
  refine ⟨rfl, rfl, ?_, habsent⟩
  intro name hne
  show ("strict" :: r.given).contains name = r.given.contains name
  rw [List.contains_cons, beq_eq_false_iff_ne.mpr hne, Bool.false_or]

theorem ReadsAlong.finish (h : ReadsAlong flag r r') :
    r'.finish = r.finish.map (fun settings => { settings with strict := flag }) := by
  rw [Reading.finish, Reading.finish, h.problems, h.value]
  by_cases hempty : r.problems.isEmpty = true
  · rw [if_pos hempty, if_pos hempty]
    rfl
  · rw [if_neg hempty, if_neg hempty]
    rfl

/-- **Settings with the flag are read like those without it, and then the flag is set.** -/
theorem ofItems_strict {before after : List SettingItem} {m : Meta}
    (hname : m.path.text = "strict") (hvalue : ValueForm.boolean.ofMeta m = .ok flag)
    (hothers : ∀ item ∈ before ++ after, ¬ item.isStrict) :
    ofItems (before ++ .setting m :: after) =
      (ofItems (before ++ after)).map (fun settings => { settings with strict := flag }) := by
  have hbefore := ReadsAlong.takeItems
    (fun item hitem => hothers item (List.mem_append_left after hitem)) readsAlong_start
  have hflag := readsAlong_takeItem hbefore.absent hname hvalue
  have hafter := ReadsAlong.takeItems
    (fun item hitem => hothers item (List.mem_append_right before hitem)) hflag
  rw [ofItems_eq_finish, ofItems_eq_finish, Reading.takeItems_append, Reading.takeItems_append]
  exact hafter.finish

/-- Settings without the flag leave it off. -/
theorem strict_of_ofItems {items : List SettingItem} {settings : RepositorySettings}
    (hothers : ∀ item ∈ items, ¬ item.isStrict) (h : ofItems items = .ok settings) :
    settings.strict = false := by
  have hself := (ReadsAlong.takeItems hothers readsAlong_start).finish
  rw [← ofItems_eq_finish, h] at hself
  rw [Except.ok.inj hself]

end RepositorySettings

end QueryMethods
