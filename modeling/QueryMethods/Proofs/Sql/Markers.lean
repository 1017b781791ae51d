/-
The markers of a text, by their bytes.

`namedMarkers` adds up the bytes of the pieces that it passes.  Since the pieces make up
the text, such a sum is a position in the text, and what is known of the place of a marker
among the pieces becomes what is known of its range: it begins where a colon opens a
marker, it covers the colon and the name and nothing else, and it ends before the next one
begins.
-/
import QueryMethods.Proofs.Sql.Pieces
import Mathlib.Data.String.Basic

namespace QueryMethods

open SqlPiece

/-! ### Bytes -/

namespace SqlPiece

@[simp] theorem bytes_nil : bytes [] = 0 := rfl

@[simp] theorem bytes_cons (c : Char) (s : List Char) : bytes (c :: s) = c.utf8Size + bytes s := rfl

theorem bytes_eq_utf8Len (s : List Char) : bytes s = String.utf8Len s := by
  induction s with
  | nil => rfl
  | cons c s ih => rw [bytes_cons, String.utf8Len_cons, ih, Nat.add_comm]

@[simp] theorem bytes_append (s t : List Char) : bytes (s ++ t) = bytes s + bytes t := by
  simp only [bytes_eq_utf8Len, String.utf8Len_append]

theorem utf8ByteSize_ofList (s : List Char) : (String.ofList s).utf8ByteSize = bytes s := by
  rw [String.utf8ByteSize_ofList, bytes_eq_utf8Len]

theorem ofList_colon_cons (name : List Char) :
    String.ofList (':' :: name) = ":" ++ String.ofList name := by
  rw [← List.singleton_append, String.ofList_append]

/-- What stands between two positions of a text. -/
theorem extract_between {sql : String} {before inside after : List Char}
    (h : sql.toList = before ++ inside ++ after) :
    String.Pos.Raw.extract sql ⟨bytes before⟩ ⟨bytes before + bytes inside⟩ =
      String.ofList inside := by
  have hsql : sql = String.ofList (before ++ inside ++ after) := by
    rw [← h, String.ofList_toList]
  rw [hsql, bytes_eq_utf8Len, bytes_eq_utf8Len]
  exact String.extract_of_valid before inside after

end SqlPiece

/-- A byte position of a text, by what stands before it and what follows. -/
structure SplitsAt (sql : String) (position : Nat) (before after : List Char) : Prop where
  text : sql.toList = before ++ after
  size : (String.ofList before).utf8ByteSize = position

/-! ### Ranges -/

/-- The marker of a name behind a number of bytes. -/
def markerOf (start : Nat) (name : List Char) : Marker :=
  ⟨String.ofList name, start, start + bytes (':' :: name)⟩

theorem markersAt_cons (start : Nat) (p : SqlPiece) (ps : List SqlPiece) (m : Marker) :
    m ∈ markersAt start (p :: ps) ↔
      (∃ name, p = named name ∧ m = markerOf start name) ∨
        m ∈ markersAt (start + bytes p.text) ps := by
  cases p with
  | plain c => simp [markersAt]
  | cast => simp [markersAt]
  | named name => simp [markersAt, markerOf, SqlPiece.text]

/-- The markers among pieces, with the bytes in front of them. -/
theorem mem_markersAt_iff {m : Marker} {ps : List SqlPiece} :
    ∀ {start : Nat}, m ∈ markersAt start ps ↔
      ∃ before name, NamedAt ps before name ∧ m = markerOf (start + bytes before) name := by
  induction ps with
  | nil => simp [markersAt, not_namedAt_nil]
  | cons p ps ih =>
      intro start
      rw [markersAt_cons, ih]
      constructor
      · rintro (⟨name, hp, rfl⟩ | ⟨before, name, hat, rfl⟩)
        · exact ⟨[], name, namedAt_cons.mpr (Or.inl ⟨hp, rfl⟩), rfl⟩
        · refine ⟨p.text ++ before, name, namedAt_cons.mpr (Or.inr ⟨before, rfl, hat⟩), ?_⟩
          rw [bytes_append, Nat.add_assoc]
      · rintro ⟨before, name, hat, rfl⟩
        rcases namedAt_cons.mp hat with ⟨hp, rfl⟩ | ⟨between, rfl, hbetween⟩
        · exact Or.inl ⟨name, hp, rfl⟩
        · refine Or.inr ⟨between, name, hbetween, ?_⟩
          rw [bytes_append, Nat.add_assoc]

/-- A marker begins behind whatever was passed. -/
theorem le_start_of_mem_markersAt {m : Marker} {start : Nat} {ps : List SqlPiece}
    (h : m ∈ markersAt start ps) : start ≤ m.start := by
  obtain ⟨before, name, -, rfl⟩ := mem_markersAt_iff.mp h
  exact Nat.le_add_right start (bytes before)

theorem start_lt_stop_markerOf (start : Nat) (name : List Char) :
    (markerOf start name).start < (markerOf start name).stop := by
  have hcolon : ':'.utf8Size = 1 := by decide
  show start < start + bytes (':' :: name)
  rw [bytes_cons, hcolon]
  omega

/-- Ranges come one after the other. -/
theorem pairwise_markersAt (ps : List SqlPiece) :
    ∀ start, (markersAt start ps).Pairwise (fun m n => m.start < n.start ∧ m.stop ≤ n.start) := by
  induction ps with
  | nil => exact fun _ => List.Pairwise.nil
  | cons p ps ih =>
      intro start
      cases p with
      | plain c => exact ih _
      | cast => exact ih _
      | named name =>
          refine List.Pairwise.cons ?_ (ih _)
          intro m hm
          have hstop : (markerOf start name).stop ≤ m.start := le_start_of_mem_markersAt hm
          exact ⟨Nat.lt_of_lt_of_le (start_lt_stop_markerOf start name) hstop, hstop⟩

/-! ### Named markers of a text -/

/-- The named markers of a text are the places where one opens. -/
theorem mem_namedMarkers_iff {m : Marker} {sql : String} :
    m ∈ namedMarkers sql ↔
      ∃ before after name, sql.toList = before ++ after ∧ Opens before after name ∧
        m = markerOf (bytes before) name := by
  rw [namedMarkers, mem_markersAt_iff]
  have hstart : AtPiece [] sql.toList := fun _ => Even.zero
  have hat := fun name before => (cut_scan sql.toList).namedAt_iff name before hstart
  constructor
  · rintro ⟨before, name, h, rfl⟩
    obtain ⟨after, htext, hopens⟩ := (hat name before).mp h
    exact ⟨before, after, name, htext, hopens, by rw [Nat.zero_add]⟩
  · rintro ⟨before, after, name, htext, hopens, rfl⟩
    exact ⟨before, name, (hat name before).mpr ⟨after, htext, hopens⟩, by rw [Nat.zero_add]⟩

/-- The range of a marker and its name, where the marker opens. -/
theorem SqlPiece.Opens.covers {sql : String} {before after name : List Char}
    (htext : sql.toList = before ++ after) (h : Opens before after name) :
    String.Pos.Raw.extract sql ⟨bytes before⟩ ⟨bytes before + bytes (':' :: name)⟩ =
      ":" ++ String.ofList name := by
  obtain ⟨c, rest, rfl, -, rfl⟩ := h.run
  have hsplit : sql.toList = before ++ (':' :: (c :: rest).takeWhile inMarkerName) ++
      (c :: rest).dropWhile inMarkerName := by
    rw [htext, List.append_assoc, List.cons_append, List.takeWhile_append_dropWhile]
  rw [extract_between hsplit, ofList_colon_cons]

/-- **A colon opens a marker where a name follows it and an even number of colons stands before
it.**  The name of a marker is the longest that can be read there, its range holds the colon
and the name, and the ranges follow one another. -/
theorem namedMarkers_positions (sql : String) :
    (∀ position, (∃ m ∈ namedMarkers sql, m.start = position) ↔
      ∃ before c after, SplitsAt sql position before (':' :: c :: after) ∧
        opensMarkerName c = true ∧ Even (endColons before)) ∧
    (∀ m ∈ namedMarkers sql,
      (∃ before after, SplitsAt sql m.start before (':' :: after) ∧
        m.name.toList = after.takeWhile inMarkerName) ∧
      m.stop = m.start + (":" ++ m.name).utf8ByteSize ∧
      String.Pos.Raw.extract sql ⟨m.start⟩ ⟨m.stop⟩ = ":" ++ m.name) ∧
    (namedMarkers sql).Pairwise (fun m n => m.start < n.start ∧ m.stop ≤ n.start) := by
  refine ⟨?_, ?_, pairwise_markersAt _ 0⟩
  · intro position
    constructor
    · rintro ⟨m, hm, rfl⟩
      obtain ⟨before, after, name, htext, hopens, rfl⟩ := mem_namedMarkers_iff.mp hm
      obtain ⟨c, rest, rfl, hc, -⟩ := hopens.run
      exact ⟨before, c, rest, ⟨htext, utf8ByteSize_ofList before⟩, hc, hopens.even⟩
    · rintro ⟨before, c, rest, ⟨htext, rfl⟩, hc, heven⟩
      have hopens : Opens before (':' :: c :: rest) ((c :: rest).takeWhile inMarkerName) :=
        ⟨heven, c, rest, rfl, hc, rfl⟩
      refine ⟨_, mem_namedMarkers_iff.mpr ⟨before, _, _, htext, hopens, rfl⟩, ?_⟩
      exact (utf8ByteSize_ofList before).symm
  · intro m hm
    obtain ⟨before, after, name, htext, hopens, rfl⟩ := mem_namedMarkers_iff.mp hm
    have hcovers := hopens.covers htext
    obtain ⟨c, rest, rfl, -, rfl⟩ := hopens.run
    refine ⟨⟨before, c :: rest, ⟨htext, utf8ByteSize_ofList before⟩, String.toList_ofList⟩, ?_,
      hcovers⟩
    have hsize : (":" ++ String.ofList ((c :: rest).takeWhile inMarkerName)).utf8ByteSize =
        bytes (':' :: (c :: rest).takeWhile inMarkerName) := by
      rw [← ofList_colon_cons, utf8ByteSize_ofList]
    exact congrArg (bytes before + ·) hsize.symm

/-- Of three colons in a row the third opens a marker, and so does one right behind a name. -/
theorem namedMarkers_positions_of_colons :
    let sql := "é :::a:b_2::int"
    namedMarkers sql = [⟨"a", 5, 7⟩, ⟨"b_2", 7, 11⟩] ∧
      (∃ before c after, SplitsAt sql 5 before (':' :: c :: after) ∧
        opensMarkerName c = true ∧ Even (endColons before)) ∧
      (∃ before after, SplitsAt sql 7 before (':' :: after) ∧
        "b_2".toList = after.takeWhile inMarkerName) ∧
      String.Pos.Raw.extract sql ⟨7⟩ ⟨11⟩ = ":b_2" := by
  intro sql
  have hmarkers : namedMarkers sql = [⟨"a", 5, 7⟩, ⟨"b_2", 7, 11⟩] := by decide +kernel
  obtain ⟨hstarts, hranges, -⟩ := namedMarkers_positions sql
  obtain ⟨hname, -, hextract⟩ := hranges ⟨"b_2", 7, 11⟩ (by simp [hmarkers])
  have hstart := (hstarts 5).mp ⟨⟨"a", 5, 7⟩, by simp [hmarkers], rfl⟩
  exact ⟨hmarkers, hstart, hname, hextract⟩

end QueryMethods
