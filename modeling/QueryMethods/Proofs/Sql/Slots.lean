/-
The slots of a template describe its markers.

Values are bound by the slots alone; nobody reads the SQL again.  So the slots have to be
right: as many as there are markers, and each about the place where its marker stands.
A marker of a filter stands in the text of the condition that its slot names, a marker
among inserted values stands as far from the front as the column of its field, and a
marker of an assignment stands directly behind the column of its field.

All this needs names without markers of their own.  The table and the columns come from
outside, so that is assumed of them; everything else is checked here.
-/
import QueryMethods.Proofs.Sql.Layout

namespace QueryMethods

/-! ### Texts with commas between them -/

theorem not_mem_commaSeparated {d : Char} {parts : List String} (hd : d ∉ ", ".toList)
    (h : ∀ p ∈ parts, d ∉ p.toList) : d ∉ (commaSeparated parts).toList := by
  rw [commaSeparated]
  induction parts with
  | nil => simp
  | cons p rest ih =>
      have hp : d ∉ p.toList := h p (by simp)
      have hrest := ih (fun q hq => h q (by simp [hq]))
      cases rest with
      | nil => simpa using hp
      | cons q rest =>
          rw [String.intercalate_cons_cons, String.toList_append, String.toList_append]
          simp only [List.mem_append, not_or]
          exact ⟨⟨hp, hd⟩, hrest⟩

/-- Items with commas between them are a row. -/
theorem commaSeparated_map {α : Type} {l : Layout α} (hfirst : l.first = "")
    (hlater : ∀ x, l.later x = ", ") (xs : List α) :
    commaSeparated (xs.map l.item) = l.text xs := by
  have key : ∀ (rest : List α) (x : α),
      commaSeparated ((x :: rest).map l.item) = l.item x ++ String.join (rest.map l.link) := by
    intro rest
    induction rest with
    | nil => intro x; simp [commaSeparated]
    | cons y rest ih =>
        intro x
        have hy := ih y
        rw [commaSeparated, List.map_cons] at hy
        rw [commaSeparated, List.map_cons, List.map_cons, String.intercalate_cons_cons, hy]
        simp [Layout.link, hlater, String.append_assoc]
  cases xs with
  | nil => simp [commaSeparated, Layout.text]
  | cons x rest => rw [key, Layout.text, hfirst, String.empty_append]

/-- Items with one field each have the slots of their fields, in order. -/
theorem rowSlots_field {l : Layout String} (hslots : ∀ i f, l.slots i f = [.field f])
    (xs : List String) : l.rowSlots xs = xs.map .field := by
  induction xs using List.reverseRecOn with
  | nil => rfl
  | append_singleton xs x ih => rw [Layout.rowSlots_concat, ih, hslots, List.map_append]; rfl

/-! ### What comparisons and connectors add -/

theorem Comparison.count_operands (c : Comparison) : c.operands.toList.count '?' = c.arity := by
  cases c <;> rfl

theorem Comparison.not_mem_token (c : Comparison) : '?' ∉ c.token.toList := by
  cases c <;> decide

theorem Connector.not_mem_token (c : Connector) : '?' ∉ c.token.toList := by
  cases c <;> decide

namespace Entity

variable (e : Entity) (naming : Naming)

/-! ### The rows of a template -/

/-- How conditions are written. -/
def conditionLayout : Layout Condition where
  first := " WHERE "
  later c := " " ++ c.connector.token ++ " "
  item := e.conditionText naming
  slots i c := List.replicate c.comparison.arity (.condition i c.field)

/-- How the markers of inserted values are written. -/
def valueLayout : Layout String where
  first := ""
  later _ := ", "
  item _ := "?"
  slots _ f := [.field f]

/-- How assignments are written behind an opening. -/
def assignmentLayout (first : String) : Layout String where
  first
  later _ := ", "
  item := e.assignment naming
  slots _ f := [.field f]

theorem whereClause_eq_text (conditions : List Condition) :
    e.whereClause naming conditions = (e.conditionLayout naming).text conditions := by
  cases conditions with
  | nil => rfl
  | cons first others => rfl

theorem whereSlots_eq_rowSlots (conditions : List Condition) :
    whereSlots conditions = (e.conditionLayout naming).rowSlots conditions := rfl

theorem keyClause_eq_text :
    e.keyClause naming = (e.assignmentLayout naming " WHERE ").text e.key.toList := by
  rw [keyClause]
  cases e.key with
  | none => rfl
  | some key => simp [Layout.text, assignmentLayout]

variable {e naming}

theorem conditionLayout_balanced {c : Condition} (h : '?' ∉ (e.column naming c.field).toList) :
    (e.conditionLayout naming).Balanced c where
  first := by simp only [conditionLayout]; decide
  later := by
    simp only [conditionLayout, String.toList_append, List.mem_append, not_or]
    exact ⟨⟨by decide, c.connector.not_mem_token⟩, by decide⟩
  item i := by
    have hcolumn := List.count_eq_zero.mpr h
    have htoken := List.count_eq_zero.mpr c.comparison.not_mem_token
    have hspace : " ".toList.count '?' = 0 := rfl
    simp only [conditionLayout, conditionText, String.toList_append, List.count_append,
      List.length_replicate, hcolumn, htoken, hspace, c.comparison.count_operands, Nat.zero_add]

theorem valueLayout_balanced (f : String) : valueLayout.Balanced f where
  first := by simp only [valueLayout]; decide
  later := by simp only [valueLayout]; decide
  item _ := by simp only [valueLayout]; rfl

theorem assignmentLayout_balanced {first f : String} (hfirst : '?' ∉ first.toList)
    (h : '?' ∉ (e.column naming f).toList) :
    (e.assignmentLayout naming first).Balanced f where
  first := hfirst
  later := by simp only [assignmentLayout]; decide
  item _ := by
    have hcolumn := List.count_eq_zero.mpr h
    have hmark : " = ?".toList.count '?' = 1 := rfl
    simp only [assignmentLayout, assignment, String.toList_append, List.count_append, hcolumn,
      hmark, Nat.zero_add, List.length_singleton]

/-! ### The place of a marker -/

variable (e naming)

/-- The marker stands in the text of the condition that the slot names.  The clause begins
behind `head`; the conditions before and after this one are written around it. -/
def FillsCondition (conditions : List Condition) (before after : List Char) (slot : Slot) :
    Prop :=
  ∃ head earlier c later a b,
    before ++ '?' :: after = head ++ (e.whereClause naming conditions).toList ∧
    conditions = earlier ++ c :: later ∧
    slot = .condition earlier.length c.field ∧
    (e.conditionText naming c).toList = a ++ '?' :: b ∧
    before = head ++ (e.whereClause naming earlier).toList ++
      ((e.conditionLayout naming).lead earlier.length c).toList ++ a ∧
    after = b ++ (String.join (later.map (e.linkedText naming))).toList

/-- The marker has as many values in front of it as the column of the slot has columns in
front of it. -/
def FillsValue (before : List Char) (slot : Slot) : Prop :=
  ∃ earlier f later,
    e.fields = earlier ++ f :: later ∧
    slot = .field f ∧
    before = ("INSERT INTO " ++ e.table ++ " (" ++
        commaSeparated (earlier.map (e.column naming) ++
          e.column naming f :: later.map (e.column naming)) ++ ") VALUES (" ++
        commaSeparated (earlier.map (fun _ => "?")) ++ valueLayout.lead earlier.length f).toList

/-- The marker stands directly behind the column of the slot and the sign of equality. -/
def FillsAssignment (before : List Char) (slot : Slot) : Prop :=
  ∃ f front, slot = .field f ∧ before = front ++ (e.column naming f ++ " = ").toList

/-- The slot tells the place of the marker, as statements of a kind are written. -/
def Fills (conditions : List Condition) (kind : StatementKind) (before after : List Char)
    (slot : Slot) : Prop :=
  match kind with
  | .select | .delete => e.FillsCondition naming conditions before after slot
  | .insert => e.FillsValue naming before slot
  | .update => e.FillsAssignment naming before slot

/-- The fields whose columns are written in the statement of a name. -/
def writtenFields (name : MethodName) : StatementKind → List String
  | .select | .delete => name.fields
  | .insert => e.fields
  | .update => e.nonKeyFields ++ e.key.toList

/-- Neither the table nor a column that is written has this character. -/
structure NamesAvoid (d : Char) (name : MethodName) (kind : StatementKind) : Prop where
  table : d ∉ e.table.toList
  column : ∀ f ∈ e.writtenFields name kind, d ∉ (e.column naming f).toList

variable {e naming}

theorem replicate_getElem?_eq {α : Type} {n i : Nat} {x y : α}
    (h : (List.replicate n x)[i]? = some y) : y = x := by
  obtain ⟨hlt, hget⟩ := List.getElem?_eq_some_iff.mp h
  rw [List.getElem_replicate] at hget
  exact hget.symm

/-- A filter behind a text without markers. -/
theorem marked_filter {head : List Char} {conditions : List Condition} (hhead : '?' ∉ head)
    (hcolumns : ∀ c ∈ conditions, '?' ∉ (e.column naming c.field).toList) :
    Marked (head ++ (e.whereClause naming conditions).toList) (whereSlots conditions)
      (e.FillsCondition naming conditions) := by
  have hrow := Layout.marked (l := e.conditionLayout naming)
    (fun c hc => conditionLayout_balanced (hcolumns c hc))
  rw [whereSlots_eq_rowSlots e naming, whereClause_eq_text]
  refine Marked.cons_text hhead (hrow.mono ?_)
  intro before after slot hwhole hfills
  obtain ⟨earlier, c, later, a, b, hsplit, hitem, hbefore, hafter, hslot⟩ := hfills
  refine ⟨head, earlier, c, later, a, b, ?_, hsplit, replicate_getElem?_eq hslot, hitem, ?_, ?_⟩
  · rw [whereClause_eq_text, hwhole, List.append_assoc]
  · rw [hbefore, whereClause_eq_text]
    simp only [List.append_assoc]
  · exact hafter

/-- Assignments in a row, behind whatever stands in front of them. -/
theorem marked_assignments {first : String} {fields : List String} (hfirst : '?' ∉ first.toList)
    (hcolumns : ∀ f ∈ fields, '?' ∉ (e.column naming f).toList) (head : List Char) :
    Marked ((e.assignmentLayout naming first).text fields).toList (fields.map .field)
      (fun before _ => e.FillsAssignment naming (head ++ before)) := by
  have hrow := Layout.marked (l := e.assignmentLayout naming first)
    (fun f hf => assignmentLayout_balanced hfirst (hcolumns f hf))
  rw [rowSlots_field (fun _ _ => rfl)] at hrow
  refine hrow.mono ?_
  intro before after slot _ hfills
  obtain ⟨earlier, f, later, a, b, hsplit, hitem, hbefore, -, hslot⟩ := hfills
  have hfront : '?' ∉ (e.column naming f ++ " = ").toList := by
    rw [String.toList_append, List.mem_append, not_or]
    exact ⟨hcolumns f (by rw [hsplit]; simp), by decide⟩
  have ha : a = (e.column naming f ++ " = ").toList := by
    refine eq_of_last_marker (b := b) hfront ?_
    rw [← hitem]
    simp [assignmentLayout, assignment]
  have hzero : a.count '?' = 0 := by
    rw [ha]
    exact List.count_eq_zero.mpr hfront
  rw [hzero] at hslot
  refine ⟨f, head ++ (((e.assignmentLayout naming first).text earlier).toList ++
    ((e.assignmentLayout naming first).lead earlier.length f).toList), ?_, ?_⟩
  · exact (Option.some.inj hslot).symm
  · rw [hbefore, ha]
    simp only [List.append_assoc]

/-! ### The templates -/

/-- The projections that templates select. -/
def projections : List String :=
  ["*", "COUNT(*)", "CASE WHEN COUNT(*) > 0 THEN TRUE ELSE FALSE END"]

theorem selectTemplate_sql (projection : String) (conditions : List Condition) :
    (e.selectTemplate naming projection conditions).sql =
      "SELECT " ++ projection ++ " FROM " ++ e.table ++ e.whereClause naming conditions := rfl

theorem deleteTemplate_sql (conditions : List Condition) :
    (e.deleteTemplate naming conditions).sql =
      "DELETE FROM " ++ e.table ++ e.whereClause naming conditions := rfl

theorem insertTemplate_sql :
    (e.insertTemplate naming).sql =
      "INSERT INTO " ++ e.table ++ " (" ++ commaSeparated (e.fields.map (e.column naming)) ++
        ") VALUES (" ++ commaSeparated (e.fields.map (fun _ => "?")) ++ ")" := rfl

theorem updateTemplate_sql :
    (e.updateTemplate naming).sql =
      "UPDATE " ++ e.table ++ " SET " ++
        commaSeparated (e.nonKeyFields.map (e.assignment naming)) ++ e.keyClause naming := rfl

theorem marked_selectTemplate {projection : String} (hprojection : projection ∈ projections)
    {name : MethodName} (h : e.NamesAvoid naming '?' name .select) :
    Marked (e.selectTemplate naming projection name.conditions).sql.toList
      (e.selectTemplate naming projection name.conditions).slots
      (e.FillsCondition naming name.conditions) := by
  have hclean : ∀ p ∈ projections, '?' ∉ p.toList := by decide
  rw [selectTemplate_sql, String.toList_append]
  refine marked_filter ?_ (fun c hc => h.column c.field (List.mem_map_of_mem hc))
  simp only [String.toList_append, List.mem_append, not_or]
  exact ⟨⟨⟨by decide, hclean projection hprojection⟩, by decide⟩, h.table⟩

theorem marked_deleteTemplate {name : MethodName} (h : e.NamesAvoid naming '?' name .delete) :
    Marked (e.deleteTemplate naming name.conditions).sql.toList
      (e.deleteTemplate naming name.conditions).slots
      (e.FillsCondition naming name.conditions) := by
  rw [deleteTemplate_sql, String.toList_append]
  refine marked_filter ?_ (fun c hc => h.column c.field (List.mem_map_of_mem hc))
  simp only [String.toList_append, List.mem_append, not_or]
  exact ⟨by decide, h.table⟩

theorem marked_insertTemplate {name : MethodName} (h : e.NamesAvoid naming '?' name .insert) :
    Marked (e.insertTemplate naming).sql.toList (e.insertTemplate naming).slots
      (fun before _ => e.FillsValue naming before) := by
  have hcolumns : '?' ∉ (commaSeparated (e.fields.map (e.column naming))).toList := by
    refine not_mem_commaSeparated (by decide) ?_
    intro column hcolumn
    obtain ⟨f, hf, rfl⟩ := List.mem_map.mp hcolumn
    exact h.column f hf
  have hrow :=
    Layout.marked (l := valueLayout) (fun f (_ : f ∈ e.fields) => valueLayout_balanced f)
  have hvalues (fields : List String) :
      valueLayout.text fields = commaSeparated (fields.map (fun _ => "?")) :=
    (commaSeparated_map (l := valueLayout) rfl (fun _ => rfl) fields).symm
  rw [rowSlots_field (fun _ _ => rfl), hvalues] at hrow
  rw [insertTemplate_sql]
  simp only [String.toList_append]
  refine Marked.concat_text (Marked.cons_text ?_ (hrow.mono ?_)) (by decide)
  · simp only [List.mem_append, not_or]
    exact ⟨⟨⟨⟨by decide, h.table⟩, by decide⟩, hcolumns⟩, by decide⟩
  · intro before after slot _ hfills
    obtain ⟨earlier, f, later, a, b, hsplit, hitem, hbefore, -, hslot⟩ := hfills
    have ha : a = [] := by
      refine eq_of_last_marker (b := b) (by simp) ?_
      rw [← hitem]
      simp [valueLayout]
    rw [ha] at hslot
    refine ⟨earlier, f, later, hsplit, (Option.some.inj hslot).symm, ?_⟩
    rw [hbefore, ha, hvalues, hsplit, List.map_append, List.map_cons]
    simp only [String.toList_append, List.append_assoc, List.append_nil]

theorem marked_updateTemplate {name : MethodName} (h : e.NamesAvoid naming '?' name .update) :
    Marked (e.updateTemplate naming).sql.toList (e.updateTemplate naming).slots
      (fun before _ => e.FillsAssignment naming before) := by
  have hset : commaSeparated (e.nonKeyFields.map (e.assignment naming)) =
      (e.assignmentLayout naming "").text e.nonKeyFields :=
    commaSeparated_map (l := e.assignmentLayout naming "") rfl (fun _ => rfl) e.nonKeyFields
  rw [updateTemplate_sql, hset, keyClause_eq_text]
  simp only [String.toList_append]
  refine Marked.append (Marked.cons_text ?_ ?_) ?_
  · simp only [List.mem_append, not_or]
    exact ⟨⟨by decide, h.table⟩, by decide⟩
  · exact marked_assignments (by simp) (fun f hf => h.column f (List.mem_append_left _ hf)) _
  · exact marked_assignments (by decide) (fun f hf => h.column f (List.mem_append_right _ hf)) _

/-- The templates there are, by the operation of a name. -/
theorem template_cases {name : MethodName} {t : Template} (h : e.template naming name = .ok t) :
    (name.operation ∈ [Operation.find, .findAll, .count, .exist] ∧
      ∃ projection ∈ projections, t = e.selectTemplate naming projection name.conditions) ∨
    (name.operation = .delete ∧ t = e.deleteTemplate naming name.conditions) ∨
    (name.operation = .save ∧ t = e.insertTemplate naming) ∨
    (name.operation = .update ∧ t = e.updateTemplate naming) := by
  rw [template] at h
  cases hop : name.operation with
  | find =>
      rw [hop] at h
      exact Or.inl ⟨by simp, "*", by decide, (Except.ok.inj h).symm⟩
  | findAll =>
      rw [hop] at h
      exact Or.inl ⟨by simp, "*", by decide, (Except.ok.inj h).symm⟩
  | count =>
      rw [hop] at h
      exact Or.inl ⟨by simp, "COUNT(*)", by decide, (Except.ok.inj h).symm⟩
  | exist =>
      rw [hop] at h
      exact Or.inl ⟨by simp, _, by decide, (Except.ok.inj h).symm⟩
  | delete =>
      rw [hop] at h
      exact Or.inr (Or.inl ⟨rfl, (Except.ok.inj h).symm⟩)
  | save =>
      rw [hop] at h
      simp only at h
      split at h
      · simp at h
      · exact Or.inr (Or.inr (Or.inl ⟨rfl, (Except.ok.inj h).symm⟩))
  | update =>
      rw [hop] at h
      simp only at h
      split at h
      · simp at h
      · split at h
        · simp at h
        · exact Or.inr (Or.inr (Or.inr ⟨rfl, (Except.ok.inj h).symm⟩))
  | unknown =>
      rw [hop] at h
      simp at h

/-- Every way that asks something selects one of the projections. -/
theorem existsTemplate_cases {name : MethodName} {way : ExistsWay} {t : Template}
    (h : e.existsTemplate naming name way = .ok t) :
    ∃ projection ∈ projections, t = e.selectTemplate naming projection name.conditions := by
  cases way with
  | booleanCase => exact ⟨_, by decide, (Except.ok.inj h).symm⟩
  | countComparison => exact ⟨_, by decide, (Except.ok.inj h).symm⟩
  | literalFalse => simp [existsTemplate, ExistsWay.projection] at h

/-- **The slots of a template describe its markers.**  There is one for each, and it tells
the place of the marker with its number. -/
theorem template_markers_fill {name : MethodName} {t : Template}
    (ht : e.template naming name = .ok t ∨ ∃ way, e.existsTemplate naming name way = .ok t)
    (havoid : e.NamesAvoid naming '?' name t.kind) :
    t.sql.toList.count '?' = t.slots.length ∧
      ∀ before after, t.sql.toList = before ++ '?' :: after →
        ∃ slot, t.slots[before.count '?']? = some slot ∧
          e.Fills naming name.conditions t.kind before after slot := by
  have hmarked : Marked t.sql.toList t.slots (e.Fills naming name.conditions t.kind) := by
    rcases ht with ht | ⟨way, ht⟩
    · rcases template_cases ht with ⟨-, p, hp, rfl⟩ | ⟨-, rfl⟩ | ⟨-, rfl⟩ | ⟨-, rfl⟩
      · exact marked_selectTemplate hp havoid
      · exact marked_deleteTemplate havoid
      · exact marked_insertTemplate havoid
      · exact marked_updateTemplate havoid
    · obtain ⟨p, hp, rfl⟩ := existsTemplate_cases ht
      exact marked_selectTemplate hp havoid
  exact ⟨hmarked.count, hmarked.fills⟩

/-- The third marker of a range and a list stands in the parentheses of the list. -/
theorem template_markers_fill_range :
    let e : Entity := ⟨"users", ["id", "name"], some "id", [("name", "user_name")]⟩
    let name : MethodName :=
      ⟨.find, [⟨"id", .between, .none⟩, ⟨"name", .isIn, .or⟩], "findByIdBetweenOrNameIn"⟩
    let t : Template := e.selectTemplate .snake "*" name.conditions
    let before := "SELECT * FROM users WHERE id BETWEEN ? AND ? OR user_name IN (".toList
    e.template .snake name = .ok t ∧ e.NamesAvoid .snake '?' name t.kind ∧
      t.sql.toList = before ++ '?' :: ")".toList ∧
      ∃ slot, t.slots[2]? = some slot ∧
        e.Fills .snake name.conditions t.kind before ")".toList slot := by
  intro e name t before
  have ht : e.template .snake name = .ok t := rfl
  have havoid : e.NamesAvoid .snake '?' name t.kind := ⟨by decide, by decide⟩
  have hsql : t.sql.toList = before ++ '?' :: ")".toList := by decide
  obtain ⟨-, hfills⟩ := template_markers_fill (Or.inl ht) havoid
  exact ⟨ht, havoid, hsql, hfills before ")".toList hsql⟩

end Entity

end QueryMethods
