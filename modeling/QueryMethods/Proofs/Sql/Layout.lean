/-
Rows of items in a statement, and the markers among them.

`Marked text slots fills` says that a text has as many markers as slots and that each of
its markers fills the slot with its number; what filling means is left open.  It is made
to be put together: texts are written side by side, their slots one after the other, and
the marker with a number in the whole is the one with a smaller number in its part
(`Marked.append`).

Conditions, values and assignments are all written as rows: something opens the row, the
items follow, and something stands between them.  A `Layout` says what, and which slots
the markers of each item fill.  `Layout.marked` goes along the row from its front, one
item at the end of the row so far in each step.
-/
import QueryMethods.Sql.Derived
import Mathlib.Data.List.Induction

namespace QueryMethods

/-- A marker in a text of two parts is in one of them. -/
theorem marker_append {x y before after : List Char} (h : x ++ y = before ++ '?' :: after) :
    (∃ b, x = before ++ '?' :: b ∧ after = b ++ y) ∨
      (∃ a, before = x ++ a ∧ y = a ++ '?' :: after) := by
  rcases List.append_eq_append_iff.mp h with ⟨a, hbefore, hy⟩ | ⟨c, hx, hafter⟩
  · exact Or.inr ⟨a, hbefore, hy⟩
  · cases c with
    | nil => exact Or.inr ⟨[], by simpa using hx.symm, by simpa using hafter.symm⟩
    | cons d b =>
        rw [List.cons_append, List.cons.injEq] at hafter
        obtain ⟨rfl, hafter⟩ := hafter
        exact Or.inl ⟨b, hx, hafter⟩

/-- Where only the last character is a marker, everything else stands in front of it. -/
theorem eq_of_last_marker {x a b : List Char} (hx : '?' ∉ x) (h : x ++ ['?'] = a ++ '?' :: b) :
    a = x := by
  rcases marker_append h with ⟨c, hc, -⟩ | ⟨c, ha, hc⟩
  · exact absurd (by rw [hc]; simp) hx
  · cases c with
    | nil => simpa using ha
    | cons d c => simp at hc

/-- A text has as many markers as slots, and each marker, by what stands before and after
it, fills the slot with its number: the number of markers before it. -/
structure Marked (text : List Char) (slots : List Slot)
    (fills : List Char → List Char → Slot → Prop) : Prop where
  count : text.count '?' = slots.length
  fills : ∀ before after, text = before ++ '?' :: after →
    ∃ slot, slots[before.count '?']? = some slot ∧ fills before after slot

namespace Marked

variable {x y : List Char} {s₁ s₂ : List Slot} {fills fills' : List Char → List Char → Slot → Prop}

theorem mono (h : Marked x s₁ fills)
    (himp : ∀ before after slot, x = before ++ '?' :: after → fills before after slot →
      fills' before after slot) :
    Marked x s₁ fills' := by
  refine ⟨h.count, ?_⟩
  intro before after hx
  obtain ⟨slot, hslot, hfills⟩ := h.fills before after hx
  exact ⟨slot, hslot, himp before after slot hx hfills⟩

/-- A text without markers has no slots. -/
theorem of_not_mem (h : '?' ∉ x) : Marked x [] fills := by
  refine ⟨List.count_eq_zero.mpr h, ?_⟩
  intro before after hx
  exact absurd (by rw [hx]; simp) h

/-- A text with as many markers as slots fills them in order. -/
theorem of_count (h : x.count '?' = s₁.length) :
    Marked x s₁ (fun before _ slot => s₁[before.count '?']? = some slot) := by
  refine ⟨h, ?_⟩
  intro before after hx
  have hlt : before.count '?' < s₁.length := by
    rw [← h, hx, List.count_append, List.count_cons_self]
    omega
  exact ⟨_, List.getElem?_eq_getElem hlt, List.getElem?_eq_getElem hlt⟩

theorem append (hx : Marked x s₁ (fun before after => fills before (after ++ y)))
    (hy : Marked y s₂ (fun before => fills (x ++ before))) :
    Marked (x ++ y) (s₁ ++ s₂) fills := by
  refine ⟨by rw [List.count_append, List.length_append, hx.count, hy.count], ?_⟩
  intro before after h
  rcases marker_append h with ⟨b, hin, rfl⟩ | ⟨a, rfl, hin⟩
  · obtain ⟨slot, hslot, hfills⟩ := hx.fills before b hin
    obtain ⟨hlt, -⟩ := List.getElem?_eq_some_iff.mp hslot
    exact ⟨slot, by rw [List.getElem?_append_left hlt, hslot], hfills⟩
  · obtain ⟨slot, hslot, hfills⟩ := hy.fills a after hin
    refine ⟨slot, ?_, hfills⟩
    rw [List.count_append, hx.count, List.getElem?_append_right (Nat.le_add_right _ _),
      Nat.add_sub_cancel_left, hslot]

/-- What has no markers may stand in front. -/
theorem cons_text (h : '?' ∉ x) (hy : Marked y s₂ (fun before => fills (x ++ before))) :
    Marked (x ++ y) s₂ fills := by
  have hx : Marked x [] (fun before after => fills before (after ++ y)) := of_not_mem h
  exact append hx hy

/-- What has no markers may stand behind. -/
theorem concat_text (hx : Marked x s₁ (fun before after => fills before (after ++ y)))
    (h : '?' ∉ y) : Marked (x ++ y) s₁ fills := by
  have hy : Marked y [] (fun before => fills (x ++ before)) := of_not_mem h
  have happ := append hx hy
  rwa [List.append_nil] at happ

end Marked

/-- How a row of items is written. -/
structure Layout (α : Type) where
  /-- What opens the row. -/
  first : String
  /-- What stands in front of a later item. -/
  later : α → String
  /-- The item itself. -/
  item : α → String
  /-- The slots of the markers of an item, by its number. -/
  slots : Nat → α → List Slot

namespace Layout

variable {α : Type} (l : Layout α)

/-- What stands in front of the item with a number. -/
def lead : Nat → α → String
  | 0, _ => l.first
  | _ + 1, x => l.later x

/-- A later item behind what stands in front of it. -/
def link (x : α) : String := l.later x ++ l.item x

/-- The text of a row; empty when there are no items. -/
def text : List α → String
  | [] => ""
  | x :: rest => l.first ++ l.item x ++ String.join (rest.map l.link)

/-- The slots of a row. -/
def rowSlots (xs : List α) : List Slot := xs.zipIdx.flatMap (fun (x, i) => l.slots i x)

/-- An item has as many markers as slots, and there are no markers in front of it. -/
structure Balanced (x : α) : Prop where
  first : '?' ∉ l.first.toList
  later : '?' ∉ (l.later x).toList
  item : ∀ i, (l.item x).toList.count '?' = (l.slots i x).length

/-- The marker stands in an item of the row, and the slot is the one of that item that the
marker has among the markers of the item. -/
def Fills (xs : List α) (before after : List Char) (slot : Slot) : Prop :=
  ∃ earlier x rest a b, xs = earlier ++ x :: rest ∧
    (l.item x).toList = a ++ '?' :: b ∧
    before = (l.text earlier).toList ++ (l.lead earlier.length x).toList ++ a ∧
    after = b ++ (String.join (rest.map l.link)).toList ∧
    (l.slots earlier.length x)[a.count '?']? = some slot

variable {l}

theorem Balanced.lead {x : α} (h : l.Balanced x) (n : Nat) : '?' ∉ (l.lead n x).toList := by
  cases n with
  | zero => exact h.first
  | succ n => exact h.later

theorem text_concat (xs : List α) (x : α) :
    (l.text (xs ++ [x])).toList =
      (l.text xs).toList ++ ((l.lead xs.length x).toList ++ (l.item x).toList) := by
  cases xs with
  | nil => simp [text, lead]
  | cons y xs => simp [text, lead, link]

theorem rowSlots_concat (xs : List α) (x : α) :
    l.rowSlots (xs ++ [x]) = l.rowSlots xs ++ l.slots xs.length x := by
  simp [rowSlots, List.zipIdx_append]

/-- A row has no characters but those of its parts. -/
theorem not_mem_text {d : Char} {xs : List α} (hfirst : d ∉ l.first.toList)
    (h : ∀ x ∈ xs, d ∉ (l.later x).toList ∧ d ∉ (l.item x).toList) :
    d ∉ (l.text xs).toList := by
  cases xs with
  | nil => simp [text]
  | cons x rest =>
      simp only [text, String.toList_append, String.toList_join, List.mem_append,
        List.mem_flatMap, List.mem_map, not_or]
      refine ⟨⟨hfirst, (h x (by simp)).2⟩, ?_⟩
      rintro ⟨_, ⟨y, hy, rfl⟩, hd⟩
      rw [link, String.toList_append, List.mem_append] at hd
      have hparts := h y (by simp [hy])
      rcases hd with hd | hd
      · exact hparts.1 hd
      · exact hparts.2 hd

/-- A marker of a row stays in its item when the row goes on. -/
theorem Fills.concat {xs : List α} {x : α} {before after : List Char} {slot : Slot}
    (h : l.Fills xs before after slot) :
    l.Fills (xs ++ [x]) before
      (after ++ ((l.lead xs.length x).toList ++ (l.item x).toList)) slot := by
  obtain ⟨earlier, y, rest, a, b, rfl, hitem, hbefore, hafter, hslot⟩ := h
  refine ⟨earlier, y, rest ++ [x], a, b, by simp, hitem, hbefore, ?_, hslot⟩
  have hlast : l.lead (earlier ++ y :: rest).length x = l.later x := by
    rw [List.length_append, List.length_cons]
    rfl
  rw [hafter, hlast]
  simp [link]

/-- **Each marker of a row fills the slot of the item that it stands in.** -/
theorem marked {xs : List α} (h : ∀ x ∈ xs, l.Balanced x) :
    Marked (l.text xs).toList (l.rowSlots xs) (l.Fills xs) := by
  induction xs using List.reverseRecOn with
  | nil => exact Marked.of_not_mem (by simp [text])
  | append_singleton xs x ih =>
      have hx : l.Balanced x := h x (by simp)
      have hrow := ih (fun y hy => h y (by simp [hy]))
      rw [text_concat, rowSlots_concat]
      refine Marked.append (hrow.mono fun before after slot _ => Fills.concat) ?_
      refine Marked.cons_text (hx.lead xs.length) ?_
      refine (Marked.of_count (hx.item xs.length)).mono ?_
      intro before after slot hitem hslot
      refine ⟨xs, x, [], before, after, rfl, hitem, ?_, by simp, hslot⟩
      rw [List.append_assoc]

end Layout

end QueryMethods
