/-
Records inside records.

A nested field is read from the columns behind its prefix, and a record that it is read as may
nest others in turn.  A field at the end of such a chain is read from a row that has been nested
once for every field on the way, and that is the row nested once with all the prefixes: the field
gets what its dotted column has in the row that the outermost record is read from.

`Reaches` follows the chain through the declarations and `Holds` follows it through what was read.
The induction is on the chain; a step of it is the entry of one field.
-/
import QueryMethods.Proofs.Record.Reading
import QueryMethods.Proofs.Row.Nesting

namespace QueryMethods

open Syntax (Ty)

/-- The column that a field is read from, if it is read from one. -/
def FieldSource.column? : FieldSource → Option String
  | column name => some name
  | columnOrDefault name => some name
  | nested _ => none
  | default => none

/-- What stands in a datum under the names of fields, the outermost first. -/
inductive Datum.Holds : Datum → List String → Datum → Prop
  | here (d : Datum) : Holds d [] d
  | inside {fields : List (String × Datum)} {name : String} {names : List String} {e x : Datum}
      (hentry : (name, e) ∈ fields) (h : Holds e names x) : Holds (.record fields) (name :: names) x

namespace Library

/-- A field of a record, or of one that it nests.  The steps are the nested fields that lead to
it, the outermost first: the name of each and what its columns begin with. -/
inductive Reaches : List Record → Ty → List (String × String) → RecordField → Prop
  /-- A field of the record itself. -/
  | own {r : Record} {records : List Record} {type : Ty} {f : RecordField}
      (hname : plainTypeName type = some r.name) (hf : f ∈ r.fields) :
      Reaches (r :: records) type [] f
  /-- A field of the record that a nested field is read as. -/
  | nested {r : Record} {records : List Record} {type : Ty} {f g : RecordField} {start : String}
      {steps : List (String × String)} (hname : plainTypeName type = some r.name)
      (hg : g ∈ r.fields) (hsource : g.source = .nested start)
      (h : Reaches records g.type steps f) :
      Reaches (r :: records) type ((g.name, start) :: steps) f
  /-- A field of a record further behind. -/
  | later {r : Record} {records : List Record} {type : Ty} {f : RecordField}
      {steps : List (String × String)} (hname : plainTypeName type ≠ some r.name)
      (h : Reaches records type steps f) : Reaches (r :: records) type steps f

variable {among : Ty → Option RowReader} {records : List Record} {type : Ty} {read : RowReader}
  {row : Row} {d : Datum} {f : RecordField} {steps : List (String × String)}

theorem fieldReader_of_nested {start : String} (hsource : f.source = .nested start)
    (hread : fieldReader among f = some read) :
    ∃ inner, among f.type = some inner ∧ ∀ row, read row = inner (row.nested start) := by
  rw [fieldReader, hsource] at hread
  obtain ⟨inner, hinner, rfl⟩ := Option.map_eq_some_iff.mp hread
  exact ⟨inner, hinner, fun _ => rfl⟩

/-- Where its column is there, a field is read from it, whether or not it may lack it. -/
theorem fieldReader_of_column {column : String} {t : ValueType} {v : Value}
    (hcolumn : f.source.column? = some column) (ht : f.type.valueType? = some t)
    (hread : fieldReader among f = some read) (hv : row.get? column = some v) :
    read row = (row.getAs t.decode column).map (.typed t) := by
  cases hsource : f.source with
  | column name =>
      rw [hsource] at hcolumn
      rw [fieldReader, hsource, ht] at hread
      rw [← Option.some.inj hread, ← Option.some.inj hcolumn]
      rfl
  | columnOrDefault name =>
      rw [hsource] at hcolumn
      obtain rfl : name = column := Option.some.inj hcolumn
      rw [fieldReader, hsource, ht] at hread
      rw [← Option.some.inj hread]
      exact readColumnOrDefault_of_found hv
  | nested start => rw [hsource] at hcolumn; exact nomatch hcolumn
  | default => rw [hsource] at hcolumn; exact nomatch hcolumn

/-- Each field of a record has an entry in what the record is read as. -/
theorem exists_entry {r : Record} (hname : plainTypeName type = some r.name)
    (hread : readerAmong (r :: records) type = some read) (hrow : read row = .ok d)
    (hf : f ∈ r.fields) : ∃ entries e readField, d = .record entries ∧ (f.name, e) ∈ entries ∧
      fieldReader (readerAmong records) f = some readField ∧ readField row = .ok e := by
  obtain ⟨entries, rfl, hentries⟩ := (readerAmong_eq_ok_iff hname hread).mp hrow
  obtain ⟨⟨name, e⟩, hmem, hentry, readField, hreadField, he⟩ :=
    exists_mem_of_forall₂ hentries hf
  obtain rfl : name = f.name := hentry
  exact ⟨entries, e, readField, rfl, hmem, hreadField, he⟩

/-- A field inside nested records is read from the row nested along the way. -/
theorem Reaches.exists_holds (h : Reaches records type steps f)
    (hread : readerAmong records type = some read) (hrow : read row = .ok d) :
    ∃ among readField e, fieldReader among f = some readField ∧
      readField (row.nestedAlong (steps.map (·.2))) = .ok e ∧
      d.Holds (steps.map (·.1) ++ [f.name]) e := by
  induction h generalizing read row d with
  | own hname hf =>
      obtain ⟨entries, e, readField, rfl, hentry, hreadField, he⟩ :=
        exists_entry hname hread hrow hf
      exact ⟨_, readField, e, hreadField, he, .inside hentry (.here e)⟩
  | @nested r records type f g start steps hname hg hsource _ ih =>
      obtain ⟨entries, e, readField, rfl, hentry, hreadField, he⟩ :=
        exists_entry hname hread hrow hg
      obtain ⟨inner, hinner, hnested⟩ := fieldReader_of_nested hsource hreadField
      rw [hnested] at he
      obtain ⟨among, readInner, x, hreadInner, hx, hholds⟩ := ih hinner he
      exact ⟨among, readInner, x, hreadInner, hx, .inside hentry hholds⟩
  | later hname _ ih =>
      rw [readerAmong, if_neg hname] at hread
      exact ih hread hrow

/-- A field inside nested records gets what the row has in its dotted column. -/
theorem Reaches.exists_typed {column : String} {t : ValueType} (h : Reaches records type steps f)
    (hread : readerAmong records type = some read) (hrow : read row = .ok d)
    (hcolumn : f.source.column? = some column) (ht : f.type.valueType? = some t)
    (hmem : Row.dottedAlong (steps.map (·.2)) column ∈ row.columns) :
    ∃ x, row.getAs t.decode (Row.dottedAlong (steps.map (·.2)) column) = .ok x ∧
      d.Holds (steps.map (·.1) ++ [f.name]) (.typed t x) := by
  obtain ⟨among, readField, e, hreadField, he, hholds⟩ := h.exists_holds hread hrow
  obtain ⟨v, hv⟩ := Row.exists_firstNamed? hmem
  have hget : (row.nestedAlong (steps.map (·.2))).get? column = some v :=
    (Row.get?_nestedAlong hmem).trans ((Row.get?_of_mem_columns hmem).trans hv)
  rw [fieldReader_of_column hcolumn ht hreadField hget, Row.getAs_nestedAlong t.decode hmem] at he
  cases hx : row.getAs t.decode (Row.dottedAlong (steps.map (·.2)) column) with
  | error failure => rw [hx] at he; exact nomatch he
  | ok x =>
      rw [hx] at he
      rw [← Except.ok.inj he] at hholds
      exact ⟨x, rfl, hholds⟩

end Library

/-- **Nesting composes, and at every depth it reads the dotted columns.**

Nesting twice is nesting once with a point between the prefixes.  A nested row is the part of
the row whose names begin with the prefix and a point, in order and with repeated columns, when
the prefix is put back.  Where a column has exactly the dotted name, looking it up in the nested
row and looking the dotted name up in the row are the same, also behind several prefixes; and
what a record is read as holds, for every field of it or of a record inside it whose dotted
column is there, what the row has in that column. -/
theorem Row.nested_composes (r : Row) :
    (∀ p q, (r.nested p).nested q = r.nested (p ++ "." ++ q)) ∧
    (∀ p, (r.nested p).cells.map (fun cell => (p ++ "." ++ cell.1, cell.2)) =
      r.cells.filter (fun cell => startsDotted p cell.1)) ∧
    (∀ p c, p ++ "." ++ c ∈ r.columns → (r.nested p).get? c = r.get? (p ++ "." ++ c)) ∧
    (∀ starts c, dottedAlong starts c ∈ r.columns →
      ∀ (α : Type) (decode : Value → Except Failure α),
        (r.nestedAlong starts).getAs decode c = r.getAs decode (dottedAlong starts c)) ∧
    (∀ (l : Library) type read d, l.reader type = some read → read r = .ok d →
      ∀ steps f column t, Library.Reaches l.records type steps f →
        f.source.column? = some column → f.type.valueType? = some t →
        dottedAlong (steps.map (·.2)) column ∈ r.columns →
        ∃ x, r.getAs t.decode (dottedAlong (steps.map (·.2)) column) = .ok x ∧
          d.Holds (steps.map (·.1) ++ [f.name]) (.typed t x)) := by
  refine ⟨nested_nested r, map_dotted_cells_nested r, ?_, ?_, ?_⟩
  · intro p c hmem
    exact get?_nested hmem
  · intro starts c hmem α decode
    exact getAs_nestedAlong decode hmem
  · intro l type read d hread hrow steps f column t hreaches hcolumn ht hmem
    exact hreaches.exists_typed hread hrow hcolumn ht hmem

/-- The city of the lead of a team stands two records deep, and of two columns it is the first. -/
theorem Row.nested_composes_team :
    let address : Record :=
      ⟨"Address", .none, [⟨"city", .path (.ofName "String"), .column "city"⟩]⟩
    let lead : Record :=
      ⟨"Lead", .none, [⟨"address", .path (.ofName "Address"), .nested "home"⟩]⟩
    let team : Record := ⟨"Team", .none, [⟨"lead", .path (.ofName "Lead"), .nested "lead"⟩]⟩
    let l : Library := ⟨[team, lead, address], []⟩
    let r : Row := ⟨[("id", .int 1), ("lead.home.city", .text "Oslo"), ("lead.id", .int 7),
      ("lead.home.city", .text "Rome")]⟩
    ∃ read d, l.reader (.path (.ofName "Team")) = some read ∧ read r = .ok d ∧
      ((r.nested "lead").nested "home").cells = [("city", .text "Oslo"), ("city", .text "Rome")] ∧
      ((r.nested "lead").nested "home").get? "city" = some (.text "Oslo") ∧
      d.Holds ["lead", "address", "city"] (.typed .text "Oslo") := by
  intro address lead team l r
  obtain ⟨read, hread⟩ : ∃ read, l.reader (.path (.ofName "Team")) = some read := ⟨_, rfl⟩
  obtain ⟨d, hd⟩ : ∃ d, read r = .ok d := by
    rw [← Option.some.inj hread]
    exact ⟨_, rfl⟩
  obtain ⟨hcompose, -, hget, -, hholds⟩ := nested_composes r
  refine ⟨read, d, hread, hd, ?_, ?_, ?_⟩
  · rw [hcompose]
    rfl
  · rw [hcompose, hget _ _ (by decide)]
    rfl
  · have hown : Library.Reaches [address] (.path (.ofName "Address")) []
        ⟨"city", .path (.ofName "String"), .column "city"⟩ := .own rfl List.mem_cons_self
    have hhome : Library.Reaches [lead, address] (.path (.ofName "Lead")) [_] _ :=
      .nested rfl List.mem_cons_self rfl hown
    have hlead : Library.Reaches [team, lead, address] (.path (.ofName "Team")) [_, _] _ :=
      .nested rfl List.mem_cons_self rfl hhome
    obtain ⟨x, hx, hcity⟩ :=
      hholds l _ read d hread hd _ _ "city" .text hlead rfl rfl (by decide)
    rw [← Except.ok.inj hx] at hcity
    exact hcity

end QueryMethods
