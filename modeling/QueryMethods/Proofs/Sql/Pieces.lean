/-
Where markers open in hand-written SQL.

The scan goes over a text once and takes two colons side by side as one piece, so whether
a colon opens a marker seems to depend on everything that was scanned before it.  It does
not: what counts is how many colons stand directly before it, and only whether that number
is even.

`SqlPiece.Cut` says what the scan does in each of its steps, as a relation between a text
and its pieces, so that a statement about all texts is proved with one case for each kind
of step.  The number of colons is carried along such a proof by `AtPiece`: wherever a piece
begins with a colon, an even number of colons stands before it.  A cast takes two, and
behind any other piece stands no colon or follows none.
-/
import QueryMethods.Sql.Marker
import Mathlib.Data.List.DropRight
import Mathlib.Algebra.Group.Nat.Even

namespace QueryMethods

/-! ### Characters of names -/

theorem inMarkerName_of_opens {c : Char} (h : opensMarkerName c = true) :
    inMarkerName c = true := by
  simp only [opensMarkerName, Bool.or_eq_true, beq_iff_eq] at h
  simp only [inMarkerName, Char.isAlphanum, Bool.or_eq_true, beq_iff_eq]
  rcases h with h | h
  · exact Or.inl (Or.inl h)
  · exact Or.inr h

theorem ne_of_inMarkerName {c d : Char} (hd : inMarkerName d = false)
    (h : inMarkerName c = true) : c ≠ d := by
  rintro rfl
  rw [hd] at h
  simp at h

theorem ne_colon_of_opens {c : Char} (h : opensMarkerName c = true) : c ≠ ':' :=
  ne_of_inMarkerName (by decide) (inMarkerName_of_opens h)

/-- A run in front of something else is taken as a whole. -/
theorem takeWhile_run {p : Char → Bool} {run rest : List Char} (hrun : ∀ c ∈ run, p c = true)
    (hrest : ∀ d ∈ rest.head?, p d = false) : (run ++ rest).takeWhile p = run := by
  rw [List.takeWhile_append_of_pos hrun]
  cases rest with
  | nil => simp
  | cons d rest =>
      have hd : p d = false := hrest d (by simp)
      simp [hd]

theorem dropWhile_run {p : Char → Bool} {run rest : List Char} (hrun : ∀ c ∈ run, p c = true)
    (hrest : ∀ d ∈ rest.head?, p d = false) : (run ++ rest).dropWhile p = rest := by
  rw [List.dropWhile_append_of_pos hrun]
  cases rest with
  | nil => simp
  | cons d rest =>
      have hd : p d = false := hrest d (by simp)
      simp [hd]

/-! ### Colons at the end of a text -/

/-- How many colons a text ends with. -/
def endColons (s : List Char) : Nat := (s.rtakeWhile (· == ':')).length

theorem endColons_concat_colon (s : List Char) : endColons (s ++ [':']) = endColons s + 1 := by
  rw [endColons, List.rtakeWhile_concat_pos _ _ _ (by simp), List.length_append]
  rfl

theorem endColons_concat_of_ne (s : List Char) {c : Char} (h : c ≠ ':') :
    endColons (s ++ [c]) = 0 := by
  rw [endColons, List.rtakeWhile_concat_neg _ _ _ (by simpa using h), List.length_nil]

/-- Behind a run of a name there is no colon. -/
theorem endColons_append_of_not_mem (s : List Char) {run : List Char} (hne : run ≠ [])
    (h : ':' ∉ run) : endColons (s ++ run) = 0 := by
  obtain ⟨init, c, rfl⟩ := (List.eq_nil_or_concat' run).resolve_left hne
  rw [← List.append_assoc]
  refine endColons_concat_of_ne _ ?_
  rintro rfl
  exact h (by simp)

namespace SqlPiece

/-! ### Cutting, step by step -/

/-- What the scan makes of a text, step by step. -/
inductive Cut : List Char → List SqlPiece → Prop
  | done : Cut [] []
  | other {c : Char} {s : List Char} {ps : List SqlPiece} :
    c ≠ ':' → Cut s ps → Cut (c :: s) (plain c :: ps)
  | cast {s : List Char} {ps : List SqlPiece} :
    Cut s ps → Cut (':' :: ':' :: s) (cast :: ps)
  /-- A colon in front of neither a colon nor a name. -/
  | lone {s : List Char} {ps : List SqlPiece} :
    (∀ d ∈ s.head?, d ≠ ':' ∧ opensMarkerName d = false) → Cut s ps →
      Cut (':' :: s) (plain ':' :: ps)
  /-- A name goes as far as it can. -/
  | named {d : Char} {run s : List Char} {ps : List SqlPiece} :
    opensMarkerName d = true → (∀ c ∈ run, inMarkerName c = true) →
      (∀ c ∈ s.head?, inMarkerName c = false) → Cut s ps →
      Cut (':' :: d :: (run ++ s)) (named (d :: run) :: ps)

theorem cut_scan (s : List Char) : Cut s (scan s) := by
  induction s using scan.induct with
  | case1 =>
      rw [scan]
      exact Cut.done
  | case2 c =>
      rw [scan]
      by_cases hc : c = ':'
      · subst hc
        exact Cut.lone (by simp) Cut.done
      · exact Cut.other hc Cut.done
  | case3 rest ih =>
      rw [scan]
      exact Cut.cast ih
  | case4 c d rest hcast hname ih =>
      have hscan : scan (c :: d :: rest) =
          named (d :: rest.takeWhile inMarkerName) :: scan (rest.dropWhile inMarkerName) := by
        rw [scan, if_pos hname]
        exact hcast
      rw [hscan]
      obtain ⟨rfl, hd⟩ := hname
      have hrun : ∀ x ∈ rest.takeWhile inMarkerName, inMarkerName x = true :=
        fun x hx => List.mem_takeWhile_imp hx
      have hhead : ∀ x ∈ (rest.dropWhile inMarkerName).head?, inMarkerName x = false := by
        intro x hx
        have hnot := List.head?_dropWhile_not inMarkerName rest
        rw [Option.mem_def.mp hx] at hnot
        simpa using hnot
      have hcut := Cut.named hd hrun hhead ih
      rwa [List.takeWhile_append_dropWhile] at hcut
  | case5 c d rest hcast hname ih =>
      have hscan : scan (c :: d :: rest) = plain c :: scan (d :: rest) := by
        rw [scan, if_neg hname]
        exact hcast
      rw [hscan]
      by_cases hc : c = ':'
      · subst hc
        refine Cut.lone ?_ ih
        intro x hx
        obtain rfl := Option.some.inj hx
        refine ⟨?_, ?_⟩
        · rintro rfl
          exact hcast rfl rfl
        · exact Bool.eq_false_iff.mpr (fun hd => hname ⟨rfl, hd⟩)
      · exact Cut.other hc ih

/-- A text has one cut only, the one that the scan makes. -/
theorem Cut.scan_eq {s : List Char} {ps : List SqlPiece} (h : Cut s ps) : scan s = ps := by
  induction h with
  | done => rw [scan]
  | @other c s ps hc _ ih =>
      cases s with
      | nil =>
          rw [scan] at ih
          rw [scan, ← ih]
      | cons d s =>
          rw [scan, if_neg (fun hname => hc hname.1), ih]
          exact fun hcolon => absurd hcolon hc
  | cast _ ih => rw [scan, ih]
  | @lone s ps hlone _ ih =>
      cases s with
      | nil =>
          rw [scan] at ih
          rw [scan, ← ih]
      | cons d s =>
          obtain ⟨hd, hname⟩ := hlone d rfl
          rw [scan, if_neg (by simp [hname]), ih]
          exact fun _ hcolon => hd hcolon
  | @named d run s ps hd hrun hs _ ih =>
      rw [scan, if_pos ⟨rfl, hd⟩, takeWhile_run hrun hs, dropWhile_run hrun hs, ih]
      exact fun _ hcolon => ne_colon_of_opens hd hcolon

/-- The text that pieces are made of. -/
def joined (ps : List SqlPiece) : List Char := ps.flatMap text

@[simp] theorem joined_cons (p : SqlPiece) (ps : List SqlPiece) :
    joined (p :: ps) = p.text ++ joined ps := rfl

/-- Cutting loses nothing. -/
theorem Cut.joined_eq {s : List Char} {ps : List SqlPiece} (h : Cut s ps) : joined ps = s := by
  induction h with
  | done => rfl
  | other _ _ ih => rw [joined_cons, ih]; rfl
  | cast _ ih => rw [joined_cons, ih]; rfl
  | lone _ _ ih => rw [joined_cons, ih]; rfl
  | named _ _ _ _ ih => rw [joined_cons, ih]; rfl

/-! ### The places of markers among pieces -/

/-- Among the pieces is a marker with a name, behind a text. -/
def NamedAt (ps : List SqlPiece) (before name : List Char) : Prop :=
  ∃ earlier later, ps = earlier ++ named name :: later ∧ joined earlier = before

theorem not_namedAt_nil (before name : List Char) : ¬ NamedAt [] before name := by
  rintro ⟨earlier, later, h, -⟩
  simp at h

/-- A marker is the first piece or behind it. -/
theorem namedAt_cons {p : SqlPiece} {ps : List SqlPiece} {before name : List Char} :
    NamedAt (p :: ps) before name ↔
      (p = named name ∧ before = []) ∨
        ∃ between, before = p.text ++ between ∧ NamedAt ps between name := by
  constructor
  · rintro ⟨earlier, later, h, rfl⟩
    cases earlier with
    | nil =>
        obtain ⟨rfl, -⟩ := List.cons.inj h
        exact Or.inl ⟨rfl, rfl⟩
    | cons q earlier =>
        obtain ⟨rfl, rfl⟩ := List.cons.inj h
        exact Or.inr ⟨joined earlier, rfl, earlier, later, rfl, rfl⟩
  · rintro (⟨rfl, rfl⟩ | ⟨_, rfl, earlier, later, rfl, rfl⟩)
    · exact ⟨[], ps, rfl, rfl⟩
    · exact ⟨p :: earlier, later, rfl, rfl⟩

/-! ### The places of markers in the text -/

/-- Between two texts a marker with a name opens: a colon with an even number of colons
before it, and the run of a name behind it. -/
structure Opens (before after name : List Char) : Prop where
  even : Even (endColons before)
  run : ∃ c rest, after = ':' :: c :: rest ∧ opensMarkerName c = true ∧
    name = (c :: rest).takeWhile inMarkerName

/-- What the scan knows of the text before a piece: a piece that begins with a colon has an
even number of colons before it. -/
def AtPiece (before after : List Char) : Prop := after.head? = some ':' → Even (endColons before)

/-- Nothing opens in front of another character than a colon. -/
theorem Opens.head {before after name : List Char} (h : Opens before after name) :
    after.head? = some ':' := by
  obtain ⟨c, rest, rfl, -⟩ := h.run
  rfl

/-- One step of the scan: if a marker opens at the beginning of a piece just when the piece is
that marker, and none opens inside of the piece, then the markers of the pieces are those
that open in the text. -/
theorem namedAt_step {p : SqlPiece} {ps : List SqlPiece} {s before name : List Char}
    (hfirst : Opens before (p.text ++ s) name ↔ p = named name)
    (hinside : ∀ a b, a ≠ [] → b ≠ [] → p.text = a ++ b → ¬ Opens (before ++ a) (b ++ s) name)
    (hrest : ∀ x, NamedAt ps x name ↔
      ∃ after, s = x ++ after ∧ Opens (before ++ p.text ++ x) after name) (x : List Char) :
    NamedAt (p :: ps) x name ↔
      ∃ after, p.text ++ s = x ++ after ∧ Opens (before ++ x) after name := by
  rw [namedAt_cons]
  constructor
  · rintro (⟨hp, rfl⟩ | ⟨y, rfl, hy⟩)
    · exact ⟨p.text ++ s, rfl, by simpa using hfirst.mpr hp⟩
    · obtain ⟨after, rfl, hopens⟩ := (hrest y).mp hy
      exact ⟨after, by simp, by simpa using hopens⟩
  · rintro ⟨after, htext, hopens⟩
    rcases List.append_eq_append_iff.mp htext with ⟨y, rfl, rfl⟩ | ⟨y, hx, rfl⟩
    · exact Or.inr ⟨y, rfl, (hrest y).mpr ⟨after, rfl, by simpa using hopens⟩⟩
    · by_cases hnil : x = []
      · subst hnil
        rw [List.nil_append] at hx
        rw [List.append_nil, ← hx] at hopens
        exact Or.inl ⟨hfirst.mp hopens, rfl⟩
      · by_cases hy : y = []
        · subst hy
          rw [List.append_nil] at hx
          rw [List.nil_append, ← hx] at hopens
          exact Or.inr ⟨[], by simp [hx], (hrest []).mpr ⟨s, rfl, by simpa using hopens⟩⟩
        · exact absurd hopens (hinside x y hnil hy hx)

theorem not_opens_of_ne {before s name : List Char} {c : Char} (hc : c ≠ ':') :
    ¬ Opens before (c :: s) name := by
  intro hopens
  exact hc (Option.some.inj hopens.head)

/-- A single character has no inside. -/
theorem not_inside_singleton {c : Char} {a b : List Char} (ha : a ≠ []) (hb : b ≠ []) :
    [c] ≠ a ++ b := by
  intro h
  have hlength := congrArg List.length h
  have ha' := List.length_pos_iff.mpr ha
  have hb' := List.length_pos_iff.mpr hb
  simp only [List.length_singleton, List.length_append] at hlength
  omega

/-- **The markers of a text are where a colon opens one.**  The scan keeps `AtPiece`, whatever
stands before the text. -/
theorem Cut.namedAt_iff {s : List Char} {ps : List SqlPiece} (h : Cut s ps) :
    ∀ {before : List Char} (name x : List Char), AtPiece before s →
      (NamedAt ps x name ↔ ∃ after, s = x ++ after ∧ Opens (before ++ x) after name) := by
  induction h with
  | done =>
      intro before name x _
      refine iff_of_false (not_namedAt_nil x name) ?_
      rintro ⟨after, hs, hopens⟩
      have hafter : after = [] := (List.append_eq_nil_iff.mp hs.symm).2
      simpa [hafter] using hopens.head
  | @other c s ps hc _ ih =>
      intro before name x _
      have hpiece : AtPiece (before ++ [c]) s := by
        intro _
        rw [endColons_concat_of_ne before hc]
        exact Even.zero
      refine namedAt_step (p := plain c) ?_ ?_ (fun x => ih name x hpiece) x
      · exact iff_of_false (not_opens_of_ne hc) (by simp)
      · exact fun a b ha hb hab => absurd hab (not_inside_singleton ha hb)
  | @cast s ps _ ih =>
      intro before name x hbefore
      have heven : Even (endColons before) := hbefore rfl
      have hodd : endColons (before ++ [':']) = endColons before + 1 :=
        endColons_concat_colon before
      have hpiece : AtPiece (before ++ [':', ':']) s := by
        intro _
        rw [← List.singleton_append, ← List.append_assoc, endColons_concat_colon, hodd]
        obtain ⟨k, hk⟩ := heven
        exact ⟨k + 1, by omega⟩
      refine namedAt_step (p := SqlPiece.cast) ?_ ?_ (fun x => ih name x hpiece) x
      · refine iff_of_false ?_ (by simp)
        rintro ⟨-, c, rest, htext, hc, -⟩
        obtain ⟨rfl, -⟩ := List.cons.inj (List.cons.inj htext).2
        exact ne_colon_of_opens hc rfl
      -- between the two colons their number is odd
      · intro a b ha hb hab hopens
        obtain ⟨c, a, rfl⟩ := List.exists_cons_of_ne_nil ha
        obtain ⟨rfl, htail⟩ := List.cons.inj hab
        have hnil : a = [] := by
          by_contra hne
          exact not_inside_singleton hne hb htail
        have hbetween : Even (endColons before + 1) := by
          rw [← hodd, ← hnil]
          exact hopens.even
        obtain ⟨k, hk⟩ := heven
        obtain ⟨l, hl⟩ := hbetween
        omega
  | @lone s ps hlone _ ih =>
      intro before name x _
      have hpiece : AtPiece (before ++ [':']) s := by
        intro hs
        exact absurd rfl (hlone ':' hs).1
      refine namedAt_step (p := plain ':') ?_ ?_ (fun x => ih name x hpiece) x
      · refine iff_of_false ?_ (by simp)
        rintro ⟨-, c, rest, htext, hc, -⟩
        have hs : s = c :: rest := (List.cons.inj htext).2
        have hname := (hlone c (by rw [hs]; rfl)).2
        rw [hc] at hname
        simp at hname
      · exact fun a b ha hb hab => absurd hab (not_inside_singleton ha hb)
  | @named d run s ps hd hrun hs _ ih =>
      intro before name x hbefore
      have hname : ∀ c ∈ d :: run, inMarkerName c = true := by
        intro c hc
        rcases List.mem_cons.mp hc with rfl | hc
        · exact inMarkerName_of_opens hd
        · exact hrun c hc
      have hcolon : ':' ∉ d :: run := fun hmem => ne_of_inMarkerName (by decide) (hname _ hmem) rfl
      have hpiece : AtPiece (before ++ ':' :: d :: run) s := by
        intro _
        have hend := endColons_append_of_not_mem (before ++ [':']) (by simp) hcolon
        rw [List.append_assoc] at hend
        rw [show ':' :: d :: run = [':'] ++ d :: run from rfl, hend]
        exact Even.zero
      refine namedAt_step (p := SqlPiece.named (d :: run)) ?_ ?_ (fun x => ih name x hpiece) x
      · constructor
        · rintro ⟨-, c, rest, htext, -, rfl⟩
          rw [← (List.cons.inj htext).2]
          exact congrArg SqlPiece.named (takeWhile_run hname hs).symm
        · intro hp
          obtain rfl := SqlPiece.named.inj hp
          exact ⟨hbefore rfl, d, run ++ s, rfl, hd, (takeWhile_run hname hs).symm⟩
      -- inside of a marker stand characters of its name, and no colon
      · intro a b ha hb hab hopens
        obtain ⟨c, a, rfl⟩ := List.exists_cons_of_ne_nil ha
        obtain ⟨e, b, rfl⟩ := List.exists_cons_of_ne_nil hb
        obtain rfl : e = ':' := Option.some.inj hopens.head
        exact hcolon (by rw [(List.cons.inj hab).2]; simp)

end SqlPiece

end QueryMethods
