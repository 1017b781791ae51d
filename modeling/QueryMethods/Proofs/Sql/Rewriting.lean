/-
From named markers to positional ones.

A statement with named values is rewritten in one pass over its pieces.  Two things could
go wrong: text between the markers could be lost or doubled, and a new marker could come
about where the text on both sides of a replaced one meets.

`replacedFrom` says on the ranges of the markers what the rewritten text is, without the
pieces, and `replacedFrom_markersAt` that the pass makes it.  That no new marker comes
about is `SqlPiece.Cut.filled`: the pieces with their markers filled are again what the
scan makes of their own text, for a `?` is neither a colon nor a part of a name.
-/
import QueryMethods.BoundStatement
import QueryMethods.Proofs.Sql.Markers

namespace QueryMethods

open SqlPiece

namespace SqlPiece

/-! ### Pieces with their markers filled -/

/-- A piece, or `?` where it is a marker. -/
def filled : SqlPiece → SqlPiece
  | named _ => plain '?'
  | p => p

/-- The text of pieces with their markers filled. -/
def filledText (ps : List SqlPiece) : List Char := joined (ps.map filled)

/-- What neither begins with a colon nor with a name does not do so when it is filled. -/
theorem Cut.head_filledText {s : List Char} {ps : List SqlPiece} (h : Cut s ps)
    (hs : ∀ d ∈ s.head?, d ≠ ':' ∧ opensMarkerName d = false) :
    ∀ d ∈ (filledText ps).head?, d ≠ ':' ∧ opensMarkerName d = false := by
  cases h with
  | done => exact hs
  | other _ _ => exact hs
  | lone _ _ => exact hs
  | cast _ => exact absurd rfl (hs ':' rfl).1
  | named _ _ _ _ => exact absurd rfl (hs ':' rfl).1

/-- **Filling the markers opens no new one**: the filled pieces are the cut of their text. -/
theorem Cut.filled {s : List Char} {ps : List SqlPiece} (h : Cut s ps) :
    Cut (filledText ps) (ps.map filled) := by
  induction h with
  | done => exact Cut.done
  | other hc _ ih => exact Cut.other hc ih
  | cast _ ih => exact Cut.cast ih
  | lone hlone hrest ih => exact Cut.lone (hrest.head_filledText hlone) ih
  | named _ _ _ _ ih => exact Cut.other (by decide) ih

theorem markersAt_filled (ps : List SqlPiece) :
    ∀ start, markersAt start (ps.map filled) = [] := by
  induction ps with
  | nil => exact fun _ => rfl
  | cons p ps ih =>
      intro start
      cases p with
      | plain c => exact ih _
      | cast => exact ih _
      | named name => exact ih _

/-- A filled text has a `?` more for each marker. -/
theorem Cut.count_filledText {s : List Char} {ps : List SqlPiece} (h : Cut s ps) :
    ∀ start, (filledText ps).count '?' = s.count '?' + (markersAt start ps).length := by
  induction h with
  | done => exact fun _ => rfl
  | @other c s ps _ _ ih =>
      intro start
      show (c :: filledText ps).count '?' = _
      rw [List.count_cons, List.count_cons, ih (start + bytes [c])]
      exact Nat.add_right_comm _ _ _
  | @cast s ps _ ih =>
      intro start
      exact ih (start + bytes [':', ':'])
  | @lone s ps _ _ ih =>
      intro start
      exact ih (start + bytes [':'])
  | @named d run s ps hd hrun _ _ ih =>
      intro start
      have hname : '?' ∉ d :: run := by
        intro hmem
        refine ne_of_inMarkerName (d := '?') (by decide) ?_ rfl
        rcases List.mem_cons.mp hmem with hq | hq
        · exact inMarkerName_of_opens (hq ▸ hd)
        · exact hrun _ hq
      have hcount : (':' :: d :: (run ++ s)).count '?' = s.count '?' := by
        rw [List.count_cons_of_ne (by decide), ← List.cons_append, List.count_append,
          List.count_eq_zero.mpr hname, Nat.zero_add]
      show ('?' :: filledText ps).count '?' = _
      rw [List.count_cons_self, hcount, ih (start + bytes (':' :: d :: run))]
      rfl

end SqlPiece

/-! ### Ranges replaced -/

/-- A text from a byte on, with the ranges of markers replaced by `?`. -/
def replacedFrom (sql : String) : Nat → List Marker → String
  | start, [] => String.Pos.Raw.extract sql ⟨start⟩ sql.rawEndPos
  | start, m :: markers =>
    String.Pos.Raw.extract sql ⟨start⟩ ⟨m.start⟩ ++ "?" ++ replacedFrom sql m.stop markers

/-- A text with the ranges of its named markers replaced by `?`. -/
def withPositional (sql : String) : String := replacedFrom sql 0 (namedMarkers sql)

/-- Replacing ranges fills the markers of the pieces; `copied` is the text that is done, and
`pending` what was passed since then. -/
theorem replacedFrom_markersAt {sql : String} {ps : List SqlPiece} :
    ∀ {copied pending : List Char}, sql.toList = copied ++ pending ++ joined ps →
      replacedFrom sql (bytes copied) (markersAt (bytes copied + bytes pending) ps) =
        String.ofList (pending ++ filledText ps) := by
  induction ps with
  | nil =>
      intro copied pending hsql
      have hend : sql.rawEndPos = ⟨bytes copied + bytes pending⟩ := by
        rw [← bytes_append, ← utf8ByteSize_ofList, ← List.append_nil (copied ++ pending)]
        rw [show ([] : List Char) = joined [] from rfl, ← hsql, String.ofList_toList]
        rfl
      show String.Pos.Raw.extract sql ⟨bytes copied⟩ sql.rawEndPos = _
      rw [hend, extract_between hsql]
      rw [show filledText [] = [] from rfl, List.append_nil]
  | cons p ps ih =>
      intro copied pending hsql
      have hpass : replacedFrom sql (bytes copied)
          (markersAt (bytes copied + bytes pending + bytes p.text) ps) =
            String.ofList (pending ++ (p.text ++ filledText ps)) := by
        have hrest : sql.toList = copied ++ (pending ++ p.text) ++ joined ps := by
          rw [hsql, joined_cons]
          simp
        have hfilled := ih hrest
        rwa [bytes_append, ← Nat.add_assoc, List.append_assoc] at hfilled
      cases p with
      | plain c => exact hpass
      | cast => exact hpass
      | named name =>
          have hrest : sql.toList = (copied ++ pending ++ ':' :: name) ++ [] ++ joined ps := by
            rw [hsql, joined_cons]
            simp [SqlPiece.text]
          have hfilled := ih hrest
          rw [bytes_nil, Nat.add_zero, bytes_append, bytes_append, List.nil_append] at hfilled
          show String.Pos.Raw.extract sql ⟨bytes copied⟩ ⟨bytes copied + bytes pending⟩ ++ "?" ++
            replacedFrom sql (bytes copied + bytes pending + bytes (':' :: name))
              (markersAt (bytes copied + bytes pending + bytes (':' :: name)) ps) = _
          rw [extract_between hsql, hfilled, String.append_assoc]
          show String.ofList pending ++ (String.ofList ['?'] ++ String.ofList (filledText ps)) = _
          rw [← String.ofList_append, ← String.ofList_append]
          rfl

theorem withPositional_eq (sql : String) :
    withPositional sql = String.ofList (filledText (scan sql.toList)) := by
  have htext : sql.toList = [] ++ [] ++ joined (scan sql.toList) :=
    (cut_scan sql.toList).joined_eq.symm
  exact replacedFrom_markersAt htext

/-! ### Values collected -/

section

variable (value? : String → Option Value) {ps : List SqlPiece}

/-- A piece that is no marker is copied. -/
theorem fillMarkers_cons {p : SqlPiece} (hp : ∀ name, p ≠ named name) :
    fillMarkers value? (p :: ps) = (do
      let (sql, values) ← fillMarkers value? ps
      pure (p.text ++ sql, values)) := by
  cases p with
  | plain c => rfl
  | cast => rfl
  | named name => exact absurd rfl (hp name)

/-- The first marker without a value is reported. -/
theorem fillMarkers_of_unbound :
    ∀ {start : Nat} {m : Marker},
      (markersAt start ps).find? (fun m => (value? m.name).isNone) = some m →
        fillMarkers value? ps = .error (.unboundParameter m.name) := by
  induction ps with
  | nil => intro start m h; simp [markersAt] at h
  | cons p ps ih =>
      intro start m h
      cases p with
      | plain c => rw [fillMarkers_cons value? (by simp), ih h]; rfl
      | cast => rw [fillMarkers_cons value? (by simp), ih h]; rfl
      | named name =>
          rw [markersAt, List.find?_cons] at h
          rw [fillMarkers]
          cases hv : value? (String.ofList name) with
          | none =>
              rw [hv] at h
              obtain rfl := Option.some.inj h
              rfl
          | some v =>
              rw [hv] at h
              show (fillMarkers value? ps >>= _) = _
              rw [ih h]
              rfl

/-- Where every marker has a value, every marker is filled. -/
theorem fillMarkers_of_bound :
    ∀ {start : Nat}, (∀ m ∈ markersAt start ps, (value? m.name).isSome = true) →
      ∃ values, fillMarkers value? ps = .ok (filledText ps, values) ∧
        values.map some = (markersAt start ps).map (fun m => value? m.name) := by
  induction ps with
  | nil => exact fun _ => ⟨[], rfl, rfl⟩
  | cons p ps ih =>
      intro start h
      cases p with
      | plain c =>
          obtain ⟨values, hfill, hvalues⟩ := ih h
          refine ⟨values, ?_, hvalues⟩
          rw [fillMarkers_cons value? (by simp), hfill]
          rfl
      | cast =>
          obtain ⟨values, hfill, hvalues⟩ := ih h
          refine ⟨values, ?_, hvalues⟩
          rw [fillMarkers_cons value? (by simp), hfill]
          rfl
      | named name =>
          rw [markersAt] at h ⊢
          obtain ⟨hname, hrest⟩ := List.forall_mem_cons.mp h
          obtain ⟨v, hv⟩ := Option.isSome_iff_exists.mp hname
          obtain ⟨values, hfill, hvalues⟩ := ih hrest
          refine ⟨v :: values, ?_, ?_⟩
          · rw [fillMarkers, hv, hfill]
            rfl
          · rw [List.map_cons, List.map_cons, hvalues, hv]

end

/-! ### Statements rewritten -/

theorem namedMarkers_withPositional (sql : String) : namedMarkers (withPositional sql) = [] := by
  have hfilled := (cut_scan sql.toList).filled
  rw [withPositional_eq, namedMarkers, String.toList_ofList, hfilled.scan_eq]
  exact markersAt_filled _ 0

theorem positionalMarkers_withPositional (sql : String) :
    positionalMarkers (withPositional sql) =
      positionalMarkers sql + (namedMarkers sql).length := by
  rw [withPositional_eq, positionalMarkers, String.toList_ofList]
  exact (cut_scan sql.toList).count_filledText 0

namespace BoundStatement

variable {sql : String} {entries : List (String × Value)}

theorem toPositional_of_unbound {m : Marker}
    (h : (namedMarkers sql).find? (fun m => (entries.lookup m.name).isNone) = some m) :
    toPositional ⟨sql, .named entries⟩ = .error (.unboundParameter m.name) := by
  show (fillMarkers (fun name => entries.lookup name) (scan sql.toList) >>= _) = _
  rw [fillMarkers_of_unbound _ h]
  rfl

theorem toPositional_of_bound
    (h : ∀ m ∈ namedMarkers sql, (entries.lookup m.name).isSome = true) :
    ∃ values, toPositional ⟨sql, .named entries⟩ =
        .ok ⟨withPositional sql, .positional values⟩ ∧
      values.map some = (namedMarkers sql).map (fun m => entries.lookup m.name) := by
  obtain ⟨values, hfill, hvalues⟩ := fillMarkers_of_bound (fun name => entries.lookup name) h
  refine ⟨values, ?_, hvalues⟩
  show (fillMarkers (fun name => entries.lookup name) (scan sql.toList) >>= _) = _
  rw [hfill, withPositional_eq]
  rfl

/-- **A statement with named values is rewritten exactly.**  Its first marker without a value
is reported.  Where all have one, each range becomes a `?` with the first value bound to the
name, the text in between stays, and no named marker is left or comes about. -/
theorem toPositional_exact (sql : String) (entries : List (String × Value)) :
    (∀ m, (namedMarkers sql).find? (fun m => (entries.lookup m.name).isNone) = some m →
      toPositional ⟨sql, .named entries⟩ = .error (.unboundParameter m.name)) ∧
    ((∀ m ∈ namedMarkers sql, (entries.lookup m.name).isSome = true) →
      ∃ values, toPositional ⟨sql, .named entries⟩ =
          .ok ⟨withPositional sql, .positional values⟩ ∧
        values.map some = (namedMarkers sql).map (fun m => entries.lookup m.name) ∧
        namedMarkers (withPositional sql) = [] ∧
        positionalMarkers (withPositional sql) =
          positionalMarkers sql + (namedMarkers sql).length) := by
  refine ⟨fun m h => toPositional_of_unbound h, ?_⟩
  intro h
  obtain ⟨values, hok, hvalues⟩ := toPositional_of_bound h
  exact ⟨values, hok, hvalues, namedMarkers_withPositional sql,
    positionalMarkers_withPositional sql⟩

/-- Markers side by side and before a cast are filled one by one; the second of two values
with one name is not bound. -/
theorem toPositional_exact_beside_casts :
    let sql := "SELECT :a:b, x::text, :b::int WHERE c = ?"
    let entries : List (String × Value) := [("a", .int 1), ("b", .int 2), ("a", .int 3)]
    toPositional ⟨sql, .named [("a", .int 1)]⟩ = .error (.unboundParameter "b") ∧
      toPositional ⟨sql, .named entries⟩ = .ok ⟨"SELECT ??, x::text, ?::int WHERE c = ?",
        .positional [.int 1, .int 2, .int 2]⟩ ∧
      namedMarkers "SELECT ??, x::text, ?::int WHERE c = ?" = [] ∧
      positionalMarkers "SELECT ??, x::text, ?::int WHERE c = ?" = positionalMarkers sql + 3 := by
  intro sql entries
  have hmarkers : namedMarkers sql = [⟨"a", 7, 9⟩, ⟨"b", 9, 11⟩, ⟨"b", 22, 24⟩] := by
    decide +kernel
  have hsql : withPositional sql = "SELECT ??, x::text, ?::int WHERE c = ?" := by decide +kernel
  obtain ⟨hunbound, -⟩ := toPositional_exact sql [("a", .int 1)]
  obtain ⟨-, hbound⟩ := toPositional_exact sql entries
  obtain ⟨values, hok, hvalues, hnone, hcount⟩ := hbound (by rw [hmarkers]; decide)
  rw [hmarkers] at hvalues hcount
  obtain rfl : values = [.int 1, .int 2, .int 2] :=
    List.map_injective_iff.mpr (Option.some_injective Value) hvalues
  rw [hsql] at hok hnone hcount
  exact ⟨hunbound ⟨"b", 9, 11⟩ (by rw [hmarkers]; rfl), hok, hnone, hcount⟩

end BoundStatement

end QueryMethods
