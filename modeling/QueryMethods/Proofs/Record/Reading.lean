/-
What reading a record makes of a row.

A record is read field by field, in the order in which they are declared, and the first failure
is the failure of the whole.  So a record is read as an entry for each of its fields, in that
order and with nothing left out or put in, and each entry is what the reader of its field gives.
-/
import QueryMethods.Library
import QueryMethods.Proofs.Attempts

namespace QueryMethods

open Syntax (Ty)

namespace Library

variable {among : Ty → Option RowReader} {row : Row} {d : Datum}

theorem readColumnOrDefault_of_found {t : ValueType} {column : String} {v : Value}
    (hv : row.get? column = some v) :
    readColumnOrDefault t column row = (row.getAs t.decode column).map (.typed t) := by
  unfold readColumnOrDefault
  rw [hv]
  rfl

theorem readColumnOrDefault_of_absent {t : ValueType} {column : String}
    (hv : row.get? column = none) :
    readColumnOrDefault t column row = .ok (.typed t t.defaultValue) := by
  unfold readColumnOrDefault
  rw [hv]

/-- An entry has the name of a field and what the reader of the field makes of a row. -/
def EntryOf (among : Ty → Option RowReader) (row : Row) (f : RecordField)
    (entry : String × Datum) : Prop :=
  entry.1 = f.name ∧ ∃ read, fieldReader among f = some read ∧ read row = .ok entry.2

theorem readEntry_eq_ok_iff {reader : String × RowReader} {entry : String × Datum} :
    (do pure (reader.1, ← reader.2 row) : Except Failure (String × Datum)) = .ok entry ↔
      reader.1 = entry.1 ∧ reader.2 row = .ok entry.2 := by
  constructor
  · intro h
    obtain ⟨e, he, h⟩ := exists_of_bind_eq_ok h
    rw [← Except.ok.inj h]
    exact ⟨rfl, he⟩
  · rintro ⟨hname, he⟩
    rw [he, hname]
    rfl

theorem readFields_eq_ok_iff {readers : List (String × RowReader)} :
    readFields readers row = .ok d ↔ ∃ entries, d = .record entries ∧
      List.Forall₂ (fun reader entry => reader.1 = entry.1 ∧ reader.2 row = .ok entry.2)
        readers entries := by
  constructor
  · intro h
    obtain ⟨entries, hentries, h⟩ := exists_of_bind_eq_ok h
    refine ⟨entries, (Except.ok.inj h).symm, ?_⟩
    exact (mapM_eq_ok_iff.mp hentries).imp (fun _ _ => readEntry_eq_ok_iff.mp)
  · rintro ⟨entries, rfl, hentries⟩
    have hread := mapM_eq_ok_iff.mpr (hentries.imp (fun _ _ => readEntry_eq_ok_iff.mpr))
    rw [readFields, hread]
    rfl

/-- **A record is read as one entry for each field, in their order.** -/
theorem readerAmong_eq_ok_iff {r : Record} {records : List Record} {type : Ty} {read : RowReader}
    (hname : plainTypeName type = some r.name)
    (hread : readerAmong (r :: records) type = some read) :
    read row = .ok d ↔ ∃ entries, d = .record entries ∧
      List.Forall₂ (EntryOf (readerAmong records) row) r.fields entries := by
  rw [readerAmong, if_pos hname, Option.map_eq_some_iff] at hread
  obtain ⟨readers, hreaders, rfl⟩ := hread
  rw [readFields_eq_ok_iff]
  refine exists_congr (fun entries => and_congr_right (fun _ => ?_))
  refine forall₂_iff_of_forall₂ (mapM_eq_some_iff.mp hreaders) ?_
  intro f reader entry hreader
  obtain ⟨read, hf, rfl⟩ := Option.map_eq_some_iff.mp hreader
  rw [EntryOf, hf]
  constructor
  · rintro ⟨hentry, hrow⟩
    exact ⟨hentry.symm, read, rfl, hrow⟩
  · rintro ⟨hentry, _, hsame, hrow⟩
    rw [← Option.some.inj hsame] at hrow
    exact ⟨hentry.symm, hrow⟩

end Library

end QueryMethods
