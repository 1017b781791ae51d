/-
What becomes of the fields of a record.

The settings of a field say where its value comes from, or they contradict one another.  A
record is refused exactly if some of its fields contradict themselves, with one problem for each
of these, in the order of the fields.  Otherwise every field has one place in the code that fills
the record, again in order, and the settings say which: `Writes` is the code of that place and
`Gives` what is read there.

Both are said of the settings alone.  `Says` is what lies between, the source that is decided on
once and then written out as code or run.
-/
import QueryMethods.Proofs.Record.Reading
import QueryMethods.Proofs.Settings.Gathering
import QueryMethods.Proofs.Syntax.Spelling

namespace QueryMethods

open Syntax (Field Ty Token TypeDeclaration)

namespace FieldSettings

variable {s : FieldSettings} {naming : Naming} {identifier column : String} {type : Ty}

/-- The settings contradict one another: a field that is always a default value is said to be
read, or one that is a record of its own is said to have a column that may be absent. -/
def Conflicting (s : FieldSettings) : Prop :=
  s.skip = true ∧ (s.nested.isSome = true ∨ s.mayLack = true) ∨
    s.nested.isSome = true ∧ s.mayLack = true

instance (s : FieldSettings) : Decidable s.Conflicting := inferInstanceAs (Decidable (_ ∨ _))

/-- The problem of settings that contradict one another. -/
def conflict (s : FieldSettings) : Problem :=
  .here (if s.skip = true then .skipConflict else .nestedDefault)

/-- The column of a field is the one that is given, or the spelling of its name. -/
def IsColumn (s : FieldSettings) (naming : Naming) (identifier column : String) : Prop :=
  s.rename = some column ∨ s.rename = none ∧ column = naming.identifierColumn identifier

/-- The columns of a nested field begin with what is given, or with the column of the field. -/
def Opens (s : FieldSettings) (column start : String) : Prop :=
  s.nested = some (some start) ∨ s.nested = some none ∧ start = column

/-- Where settings that agree say that a value comes from. -/
inductive Says (s : FieldSettings) (column : String) : FieldSource → Prop
  | default (hskip : s.skip = true) (hnested : s.nested = none) (hlack : s.mayLack = false) :
      Says s column .default
  | nested {start : String} (hskip : s.skip = false) (hopens : s.Opens column start)
      (hlack : s.mayLack = false) : Says s column (.nested start)
  | columnOrDefault (hskip : s.skip = false) (hnested : s.nested = none)
      (hlack : s.mayLack = true) : Says s column (.columnOrDefault column)
  | column (hskip : s.skip = false) (hnested : s.nested = none) (hlack : s.mayLack = false) :
      Says s column (.column column)

/-- `__row.get_as::<type>("column")?` -/
def columnRead (type : Ty) (column : String) : List Token :=
  [.word "__row", .sign '.' false, .word "get_as", .sign ':' true, .sign ':' false,
    .sign '<' false] ++ type.tokens ++
    [.sign '>' false, .group .parenthesis [Spelling.textLiteral column], .sign '?' false]

/-- `::core::option::Option::Some(_) => value` -/
def presentCase (value : List Token) : List Token :=
  Spelling.path ["core", "option", "Option", "Some"] ++
    [.group .parenthesis [.word "_"], .sign '=' true, .sign '>' false] ++ value

/-- `::core::option::Option::None => value` -/
def absentCase (value : List Token) : List Token :=
  Spelling.path ["core", "option", "Option", "None"] ++ [.sign '=' true, .sign '>' false] ++ value

/-- The code that settings ask for. -/
inductive Writes (s : FieldSettings) (column : String) (type : Ty) : List Token → Prop
  /-- A skipped field is a default value. -/
  | default (hskip : s.skip = true) : Writes s column type Spelling.defaultValue
  /-- A nested field is read from the columns behind its prefix,
  `<type as ::sqlgen::FromRow>::from_row(__row.nested("start"))?`. -/
  | nested {start : String} (hopens : s.Opens column start) :
      Writes s column type ([.sign '<' false] ++ type.tokens ++ [.word "as"] ++
        Spelling.path ["sqlgen", "FromRow"] ++ [.sign '>' false] ++ Spelling.path ["from_row"] ++
        [.group .parenthesis [.word "__row", .sign '.' false, .word "nested",
          .group .parenthesis [Spelling.textLiteral start]], .sign '?' false])
  /-- A field with a default reads its column only if there is one,
  `match __row.get("column") { present, absent }`. -/
  | columnOrDefault (hlack : s.mayLack = true) :
      Writes s column type [.word "match", .word "__row", .sign '.' false, .word "get",
        .group .parenthesis [Spelling.textLiteral column],
        .group .brace (presentCase (columnRead type column) ++ .sign ',' false ::
          absentCase Spelling.defaultValue)]
  /-- Any other field reads its column. -/
  | column (hskip : s.skip = false) (hnested : s.nested = none) (hlack : s.mayLack = false) :
      Writes s column type (columnRead type column)

/-- What settings make of a row; `among` reads the records that may be nested. -/
inductive Gives (s : FieldSettings) (column : String) (type : Ty)
    (among : Ty → Option RowReader) (row : Row) : Datum → Prop
  /-- A skipped field is a default value. -/
  | default {t : ValueType} (hskip : s.skip = true) (ht : type.valueType? = some t) :
      Gives s column type among row (.typed t t.defaultValue)
  /-- A nested field is what the columns behind its prefix are read as. -/
  | nested {start : String} {read : RowReader} {e : Datum} (hopens : s.Opens column start)
      (hread : among type = some read) (he : read (row.nested start) = .ok e) :
      Gives s column type among row e
  /-- A field with a default is its column if there is one. -/
  | found {t : ValueType} {v : Value} {x : t.Carrier} (hlack : s.mayLack = true)
      (ht : type.valueType? = some t) (hv : row.get? column = some v)
      (hx : row.getAs t.decode column = .ok x) : Gives s column type among row (.typed t x)
  /-- A field with a default is a default value if there is no column. -/
  | absent {t : ValueType} (hlack : s.mayLack = true) (ht : type.valueType? = some t)
      (hv : row.get? column = none) : Gives s column type among row (.typed t t.defaultValue)
  /-- Any other field is its column. -/
  | column {t : ValueType} {x : t.Carrier} (hskip : s.skip = false) (hnested : s.nested = none)
      (hlack : s.mayLack = false) (ht : type.valueType? = some t)
      (hx : row.getAs t.decode column = .ok x) : Gives s column type among row (.typed t x)

/-! ### One field -/

theorem isColumn_column (s : FieldSettings) (naming : Naming) (identifier : String) :
    s.IsColumn naming identifier (s.column naming identifier) := by
  unfold IsColumn FieldSettings.column
  cases s.rename with
  | none => exact Or.inr ⟨rfl, rfl⟩
  | some name => exact Or.inl rfl

theorem IsColumn.eq_column (h : s.IsColumn naming identifier column) :
    column = s.column naming identifier := by
  unfold FieldSettings.column
  rcases h with hgiven | ⟨hnone, hspelled⟩
  · rw [hgiven]
    rfl
  · rw [hnone, hspelled]
    rfl

/-- Settings contradict one another, or they say where the value comes from. -/
theorem source_cases (s : FieldSettings) (naming : Naming) (identifier : String) :
    s.Conflicting ∧ s.source naming identifier = .error s.conflict ∨
      ¬ s.Conflicting ∧ ∃ source, s.source naming identifier = .ok source ∧
        s.Says (s.column naming identifier) source := by
  obtain ⟨rename, nested, lack, skip⟩ := s
  match skip, nested, lack with
  | true, none, false => exact Or.inr ⟨by simp [Conflicting], _, rfl, .default rfl rfl rfl⟩
  | true, none, true => exact Or.inl ⟨by simp [Conflicting], rfl⟩
  | true, some _, _ => exact Or.inl ⟨by simp [Conflicting], rfl⟩
  | false, some _, true => exact Or.inl ⟨by simp [Conflicting], rfl⟩
  | false, some (some _), false =>
      exact Or.inr ⟨by simp [Conflicting], _, rfl, .nested rfl (Or.inl rfl) rfl⟩
  | false, some none, false =>
      exact Or.inr ⟨by simp [Conflicting], _, rfl, .nested rfl (Or.inr ⟨rfl, rfl⟩) rfl⟩
  | false, none, true => exact Or.inr ⟨by simp [Conflicting], _, rfl, .columnOrDefault rfl rfl rfl⟩
  | false, none, false => exact Or.inr ⟨by simp [Conflicting], _, rfl, .column rfl rfl rfl⟩

theorem columnTokens_eq (type : Ty) (column : String) :
    columnTokens type column = columnRead type column := by
  rw [columnTokens, Syntax.typeArguments, Spelling.operator_colons]
  simp [columnRead, Syntax.fieldOf, Syntax.inAngles, Syntax.inParens, Syntax.orReturn,
    Spelling.textLiteral, Token.quoted]

theorem rowReader_eq (type : List Token) :
    Syntax.rowReader type = [.sign '<' false] ++ type ++ [.word "as"] ++
      Spelling.path ["sqlgen", "FromRow"] ++ [.sign '>' false] ++ Spelling.path ["from_row"] := by
  rw [Syntax.rowReader, Syntax.libraryPath, Spelling.globalPath_cons, Syntax.memberOf,
    Spelling.operator_colons]
  simp [Syntax.asTrait, Syntax.inAngles, Spelling.path]

/-- What settings say is written as they ask. -/
theorem Says.writes {source : FieldSource} (h : s.Says column source) (type : Ty) :
    s.Writes column type (source.tokens type) := by
  cases h with
  | default hskip _ _ =>
      rw [FieldSource.tokens, Spelling.defaultCall_eq]
      exact .default hskip
  | nested _ hopens _ =>
      rw [FieldSource.tokens, rowReader_eq, List.append_assoc _ (Syntax.inParens _)]
      exact .nested hopens
  | columnOrDefault _ _ hlack =>
      rw [FieldSource.tokens, Spelling.withCommas_eq, Spelling.globalPath_cons,
        Spelling.globalPath_cons, Spelling.operator_doubleArrow, columnTokens_eq,
        Spelling.defaultCall_eq]
      exact .columnOrDefault hlack
  | column hskip hnested hlack =>
      rw [FieldSource.tokens, columnTokens_eq]
      exact .column hskip hnested hlack

theorem Opens.ne_none {start : String} (h : s.Opens column start) : s.nested ≠ none := by
  rcases h with hgiven | ⟨hopen, -⟩
  · simp [hgiven]
  · simp [hopen]

theorem Opens.eq {start start' : String} (h : s.Opens column start) (h' : s.Opens column start') :
    start = start' := by
  rcases h with h | ⟨h, rfl⟩
  · rcases h' with h' | ⟨h', -⟩
    · exact Option.some.inj (Option.some.inj (h.symm.trans h'))
    · exact nomatch h.symm.trans h'
  · rcases h' with h' | ⟨-, rfl⟩
    · exact nomatch h.symm.trans h'
    · rfl

/-! Each setting fixes the source, since settings that agree are at most one. -/

section

variable {source : FieldSource}

theorem Says.eq_default (h : s.Says column source) (hskip : s.skip = true) :
    source = .default := by
  cases h with
  | default _ _ _ => rfl
  | nested hread _ _ => exact nomatch hskip.symm.trans hread
  | columnOrDefault hread _ _ => exact nomatch hskip.symm.trans hread
  | column hread _ _ => exact nomatch hskip.symm.trans hread

theorem Says.eq_nested {start : String} (h : s.Says column source) (hopens : s.Opens column start) :
    source = .nested start := by
  cases h with
  | default _ hnone _ => exact absurd hnone hopens.ne_none
  | nested _ hread _ => rw [hread.eq hopens]
  | columnOrDefault _ hnone _ => exact absurd hnone hopens.ne_none
  | column _ hnone _ => exact absurd hnone hopens.ne_none

theorem Says.eq_columnOrDefault (h : s.Says column source) (hlack : s.mayLack = true) :
    source = .columnOrDefault column := by
  cases h with
  | default _ _ hfull => exact nomatch hlack.symm.trans hfull
  | nested _ _ hfull => exact nomatch hlack.symm.trans hfull
  | columnOrDefault _ _ _ => rfl
  | column _ _ hfull => exact nomatch hlack.symm.trans hfull

theorem Says.eq_column (h : s.Says column source) (hskip : s.skip = false)
    (hnested : s.nested = none) (hlack : s.mayLack = false) : source = .column column := by
  cases h with
  | default hdefault _ _ => exact nomatch hskip.symm.trans hdefault
  | nested _ hopens _ => exact absurd hnested hopens.ne_none
  | columnOrDefault _ _ hmay => exact nomatch hlack.symm.trans hmay
  | column _ _ _ => rfl

end

/-- What settings say is read as what they ask for. -/
theorem Says.gives_iff {source : FieldSource} (h : s.Says column source) {name : String}
    {among : Ty → Option RowReader} {row : Row} {e : Datum} :
    (∃ read, Library.fieldReader among ⟨name, type, source⟩ = some read ∧ read row = .ok e) ↔
      s.Gives column type among row e := by
  constructor
  · rintro ⟨read, hread, hrow⟩
    cases h with
    | default hskip _ _ =>
        obtain ⟨t, ht, rfl⟩ := Option.map_eq_some_iff.mp hread
        rw [← Except.ok.inj hrow]
        exact .default hskip ht
    | nested _ hopens _ =>
        obtain ⟨inner, hinner, rfl⟩ := Option.map_eq_some_iff.mp hread
        exact .nested hopens hinner hrow
    | columnOrDefault _ _ hlack =>
        obtain ⟨t, ht, rfl⟩ := Option.map_eq_some_iff.mp hread
        cases hv : row.get? column with
        | none =>
            rw [Library.readColumnOrDefault_of_absent hv] at hrow
            rw [← Except.ok.inj hrow]
            exact .absent hlack ht hv
        | some v =>
            rw [Library.readColumnOrDefault_of_found hv] at hrow
            obtain ⟨x, hx, rfl⟩ := map_eq_ok.mp hrow
            exact .found hlack ht hv hx
    | column hskip hnested hlack =>
        obtain ⟨t, ht, rfl⟩ := Option.map_eq_some_iff.mp hread
        obtain ⟨x, hx, rfl⟩ := map_eq_ok.mp hrow
        exact .column hskip hnested hlack ht hx
  · intro hgives
    cases hgives with
    | default hskip ht =>
        obtain rfl := h.eq_default hskip
        exact ⟨_, Option.map_eq_some_iff.mpr ⟨_, ht, rfl⟩, rfl⟩
    | nested hopens hread he =>
        obtain rfl := h.eq_nested hopens
        exact ⟨_, Option.map_eq_some_iff.mpr ⟨_, hread, rfl⟩, he⟩
    | found hlack ht hv hx =>
        obtain rfl := h.eq_columnOrDefault hlack
        refine ⟨_, Option.map_eq_some_iff.mpr ⟨_, ht, rfl⟩, ?_⟩
        rw [Library.readColumnOrDefault_of_found hv]
        exact map_eq_ok.mpr ⟨_, hx, rfl⟩
    | absent hlack ht hv =>
        obtain rfl := h.eq_columnOrDefault hlack
        exact ⟨_, Option.map_eq_some_iff.mpr ⟨_, ht, rfl⟩, Library.readColumnOrDefault_of_absent hv⟩
    | column hskip hnested hlack ht hx =>
        obtain rfl := h.eq_column hskip hnested hlack
        exact ⟨_, Option.map_eq_some_iff.mpr ⟨_, ht, rfl⟩, map_eq_ok.mpr ⟨_, hx, rfl⟩⟩

end FieldSettings

/-! ### All fields -/

section

variable {ε α β : Type}

theorem gather_map_eq_ok_iff {f : α → Except (List ε) β} {as : List α} {bs : List β} :
    gather (as.map f) = .ok bs ↔ List.Forall₂ (fun a b => f a = .ok b) as bs := by
  rw [gather_eq_ok, ← List.forall₂_eq_eq_eq, List.forall₂_map_left_iff, List.forall₂_map_right_iff]

theorem flatMap_ite_eq_map_filter {p : α → Prop} [DecidablePred p] {f : α → β} (as : List α) :
    as.flatMap (fun a => if p a then [f a] else []) = (as.filter (fun a => p a)).map f := by
  induction as with
  | nil => rfl
  | cons a as ih =>
      rw [List.flatMap_cons, ih, List.filter_cons]
      by_cases ha : p a
      · simp [ha]
      · simp [ha]

end

namespace Record

variable {naming : Naming} {settled : List (Field × FieldSettings)} {gs : List RecordField}

/-- A field is carried over with its name and its type, and its settings say where its value
comes from. -/
def Carries (naming : Naming) (f : Field × FieldSettings) (g : RecordField) : Prop :=
  g.name = f.1.name.getD "" ∧ g.type = f.1.type ∧
    f.2.Says (f.2.column naming (f.1.name.getD "")) g.source

theorem fieldOf_eq (naming : Naming) (f : Field) (s : FieldSettings) :
    fieldOf naming f s = (s.source naming (f.name.getD "")).map
      (fun source => ⟨f.name.getD "", f.type, source⟩) := by
  show (s.source naming (f.name.getD "") >>= fun source => pure _) = _
  cases s.source naming (f.name.getD "") with
  | error p => rfl
  | ok source => rfl

theorem problemsOf_fieldOf (naming : Naming) (f : Field × FieldSettings) :
    problemsOf (alone (fieldOf naming f.1 f.2)) =
      if f.2.Conflicting then [f.2.conflict] else [] := by
  rw [fieldOf_eq]
  rcases f.2.source_cases naming (f.1.name.getD "") with
    ⟨hconflict, hsource⟩ | ⟨hagree, source, hsource, -⟩
  · rw [if_pos hconflict, hsource]
    rfl
  · rw [if_neg hagree, hsource]
    rfl

theorem carries_of_fieldOf {f : Field × FieldSettings} {g : RecordField}
    (h : alone (fieldOf naming f.1 f.2) = .ok g) : Carries naming f g := by
  rw [alone_eq_ok, fieldOf_eq] at h
  obtain ⟨source, hsource, rfl⟩ := map_eq_ok.mp h
  rcases f.2.source_cases naming (f.1.name.getD "") with
    ⟨-, herror⟩ | ⟨-, source', hsource', hagree⟩
  · exact nomatch hsource.symm.trans herror
  · obtain rfl : source = source' := Except.ok.inj (hsource.symm.trans hsource')
    exact ⟨rfl, rfl, hagree⟩

/-- The problems of fields are those of the fields that contradict themselves, in order. -/
theorem problemsOf_fieldsOf (naming : Naming) (settled : List (Field × FieldSettings)) :
    problemsOf (fieldsOf naming settled) =
      (settled.filter (fun f => f.2.Conflicting)).map (fun f => f.2.conflict) := by
  unfold fieldsOf
  rw [problemsOf_gather, List.flatMap_map, ← flatMap_ite_eq_map_filter]
  exact List.flatMap_congr (fun f _ => problemsOf_fieldOf naming f)

theorem carries_of_fieldsOf (h : fieldsOf naming settled = .ok gs) :
    List.Forall₂ (Carries naming) settled gs :=
  (gather_map_eq_ok_iff.mp h).imp (fun _ _ => carries_of_fieldOf)

/-- Fields are refused exactly if some of them contradict themselves. -/
theorem exists_fieldsOf_iff (naming : Naming) (settled : List (Field × FieldSettings)) :
    (∃ gs, fieldsOf naming settled = .ok gs) ↔ ∀ f ∈ settled, ¬ f.2.Conflicting := by
  have hproblems := problemsOf_fieldsOf naming settled
  constructor
  · rintro ⟨gs, hgs⟩ f hf hconflict
    rw [hgs] at hproblems
    have hmem : f ∈ settled.filter (fun f => f.2.Conflicting) :=
      List.mem_filter.mpr ⟨hf, decide_eq_true hconflict⟩
    rw [List.map_eq_nil_iff.mp hproblems.symm] at hmem
    exact absurd hmem List.not_mem_nil
  · intro hagree
    have hreasoned : Reasoned (fieldsOf naming settled) := by
      refine Reasoned.gather ?_
      intro r hr
      obtain ⟨f, -, rfl⟩ := List.mem_map.mp hr
      exact Reasoned.alone _
    refine hreasoned ?_
    rw [hproblems, List.map_eq_nil_iff, List.filter_eq_nil_iff]
    intro f hf hconflict
    exact hagree f hf (of_decide_eq_true hconflict)

/-! ### The record -/

variable {d : TypeDeclaration} {fields : List Field} {settings : RecordSettings} {r : Record}

/-- A declaration whose settings are read is its fields with their sources. -/
theorem ofDeclaration_of_settled (hbody : d.body = .named fields)
    (hsettings : RecordSettings.ofAttributes d.attributes = .ok settings)
    (hsettled : settledFields d.body = .ok settled) :
    ofDeclaration d =
      (fieldsOf settings.naming settled).map (fun gs => ⟨d.name, d.generics, gs⟩) := by
  rw [ofDeclaration, hsettings, hsettled, hbody]
  show (fieldsOf settings.naming settled >>= fun gs => pure _) = _
  cases fieldsOf settings.naming settled with
  | error ps => rfl
  | ok gs => rfl

theorem map_fst_of_settledFields (h : settledFields (.named fields) = .ok settled) :
    settled.map (·.1) = fields := by
  have hsame : settled.map (·.1) = fields.map id := by
    refine map_eq_map_of_forall₂ (gather_map_eq_ok_iff.mp h) ?_
    intro f settled hf
    obtain ⟨s, -, rfl⟩ := map_eq_ok.mp hf
    rfl
  rw [hsame, List.map_id]

/-- `Self { initializers }`, with commas between them. -/
def literal (initializers : List (List Token)) : List Token :=
  [.word "Self", .group .brace (Spelling.separated initializers)]

/-- `fn from_row(__row: ::sqlgen::Row) -> ::core::result::Result<Self, ::sqlgen::SqlError>`, with
its body. -/
def rowFunction (body : List Token) : List Token :=
  [.word "fn", .word "from_row",
    .group .parenthesis ([.word "__row", .sign ':' false] ++ Spelling.path ["sqlgen", "Row"]),
    .sign '-' true, .sign '>' false] ++ Spelling.path ["core", "result", "Result"] ++
    [.sign '<' false, .word "Self", .sign ',' false] ++ Spelling.path ["sqlgen", "SqlError"] ++
    [.sign '>' false, .group .brace body]

/-- `impl ::sqlgen::FromRow for name { function }`, with what is declared of generic types; the
function fills the fields. -/
def implementation (name : String) (generics : Syntax.Generics)
    (initializers : List (List Token)) : List Token :=
  .word "impl" :: generics.plainDeclarations ++ Spelling.path ["sqlgen", "FromRow"] ++
    [.word "for", .word name] ++ generics.references ++ generics.conditions ++
    [.group .brace (rowFunction (Spelling.ok (literal initializers)))]

theorem tokens_eq (r : Record) :
    r.tokens = implementation r.name r.generics (r.fields.map RecordField.tokens) := by
  rw [Record.tokens, Spelling.okCall_eq, Spelling.withCommas_eq, Spelling.withCommas_eq,
    Syntax.libraryPath, Syntax.libraryPath, Syntax.libraryPath, Spelling.globalPath_cons,
    Spelling.globalPath_cons, Spelling.globalPath_cons, Spelling.globalPath_cons,
    Spelling.operator_arrow]
  simp [implementation, rowFunction, literal, Spelling.separated, Syntax.inParens, Syntax.inBraces,
    Syntax.inAngles]

/-- The initializer of a field is its name and the code that its settings ask for. -/
def Initializes (naming : Naming) (f : Field × FieldSettings) (ts : List Token) : Prop :=
  ∃ name column value, f.1.name = some name ∧ f.2.IsColumn naming name column ∧
    f.2.Writes column f.1.type value ∧ ts = [.word name, .sign ':' false] ++ value

/-- The entry of a field is its name and what its settings make of a row. -/
def Fills (naming : Naming) (among : Ty → Option RowReader) (row : Row)
    (f : Field × FieldSettings) (entry : String × Datum) : Prop :=
  ∃ column, f.1.name = some entry.1 ∧ f.2.IsColumn naming entry.1 column ∧
    f.2.Gives column f.1.type among row entry.2

theorem Carries.initializes {f : Field × FieldSettings} {g : RecordField}
    (hnamed : f.1.name.isSome = true) (h : Carries naming f g) :
    Initializes naming f g.tokens := by
  obtain ⟨name, hname⟩ := Option.isSome_iff_exists.mp hnamed
  obtain ⟨gname, gtype, source⟩ := g
  obtain ⟨rfl, rfl, hagree⟩ := h
  rw [hname] at hagree ⊢
  exact ⟨name, _, _, hname, f.2.isColumn_column naming name, hagree.writes f.1.type, rfl⟩

theorem Carries.entryOf_iff {f : Field × FieldSettings} {g : RecordField}
    (hnamed : f.1.name.isSome = true) (h : Carries naming f g)
    {among : Ty → Option RowReader} {row : Row} {entry : String × Datum} :
    Library.EntryOf among row g entry ↔ Fills naming among row f entry := by
  obtain ⟨name, hname⟩ := Option.isSome_iff_exists.mp hnamed
  obtain ⟨gname, gtype, source⟩ := g
  obtain ⟨rfl, rfl, hagree⟩ := h
  rw [hname] at hagree ⊢
  rw [Library.EntryOf, hagree.gives_iff]
  constructor
  · rintro ⟨hentry, hgives⟩
    obtain rfl : entry.1 = name := hentry
    exact ⟨_, hname, f.2.isColumn_column naming entry.1, hgives⟩
  · rintro ⟨column, hentry, hcolumn, hgives⟩
    obtain rfl : name = entry.1 := Option.some.inj (hname.symm.trans hentry)
    rw [hcolumn.eq_column] at hgives
    exact ⟨rfl, hgives⟩

/-- **A record accounts for every field.**

It is refused exactly if the settings of some field contradict one another, and then with one
problem for each of these fields, in their order.  Otherwise the code that fills the record has
one initializer for each field, in the order of the declaration, and what a row is read as has
one entry for each, and both are what the settings of the field ask for. -/
theorem fills_each_field_once (hbody : d.body = .named fields)
    (hnamed : ∀ f ∈ fields, f.name.isSome = true)
    (hsettings : RecordSettings.ofAttributes d.attributes = .ok settings)
    (hsettled : settledFields d.body = .ok settled) :
    settled.map (·.1) = fields ∧
    ((∃ ps, ofDeclaration d = .error ps) ↔ ∃ f ∈ settled, f.2.Conflicting) ∧
    (∀ ps, ofDeclaration d = .error ps →
      ps = (settled.filter (fun f => f.2.Conflicting)).map (fun f => f.2.conflict)) ∧
    (∀ r, ofDeclaration d = .ok r → r.name = d.name ∧
      (∃ initializers, r.tokens = implementation d.name d.generics initializers ∧
        List.Forall₂ (Initializes settings.naming) settled initializers) ∧
      (∀ records type read row e, Library.plainTypeName type = some r.name →
        Library.readerAmong (r :: records) type = some read →
        (read row = .ok e ↔ ∃ entries, e = .record entries ∧
          List.Forall₂ (Fills settings.naming (Library.readerAmong records) row)
            settled entries))) := by
  have hfields : settled.map (·.1) = fields := map_fst_of_settledFields (hbody ▸ hsettled)
  have hnames : ∀ f ∈ settled, f.1.name.isSome = true := by
    intro f hf
    refine hnamed f.1 ?_
    rw [← hfields]
    exact List.mem_map_of_mem hf
  have hproblems := problemsOf_fieldsOf settings.naming settled
  have hexists := exists_fieldsOf_iff settings.naming settled
  rw [ofDeclaration_of_settled hbody hsettings hsettled]
  refine ⟨hfields, ?_, ?_, ?_⟩
  · cases hresult : fieldsOf settings.naming settled with
    | error ps =>
        refine iff_of_true ⟨ps, rfl⟩ ?_
        by_contra hagree
        rw [hresult] at hexists
        exact nomatch hexists.mpr (fun f hf hconflict => hagree ⟨f, hf, hconflict⟩)
    | ok gs =>
        refine iff_of_false (fun ⟨_, h⟩ => nomatch h) ?_
        rintro ⟨f, hf, hconflict⟩
        exact hexists.mp ⟨gs, hresult⟩ f hf hconflict
  · intro ps hps
    rw [← hproblems, ← problemsOf_map, hps]
    rfl
  · intro r hr
    obtain ⟨gs, hgs, rfl⟩ := map_eq_ok.mp hr
    have hcarries := (List.forall₂_and_left _ _).mpr ⟨hnames, carries_of_fieldsOf hgs⟩
    refine ⟨rfl, ⟨gs.map RecordField.tokens, tokens_eq _, ?_⟩, ?_⟩
    · rw [List.forall₂_map_right_iff]
      exact hcarries.imp (fun _ _ h => h.2.initializes h.1)
    · intro records type read row e hname hread
      rw [Library.readerAmong_eq_ok_iff hname hread]
      refine exists_congr (fun entries => and_congr_right (fun _ => ?_))
      refine forall₂_iff_of_forall₂ hcarries ?_
      intro f g entry h
      exact h.2.entryOf_iff h.1

/-- An order fills its three fields in three ways; where two of its fields contradict themselves
it is refused with a problem for each. -/
theorem fills_each_field_once_order :
    let marked (ts : List Token) : List Syntax.Attribute :=
      [⟨false, ⟨⟨false, [recordAttribute]⟩, .list .parenthesis ts⟩⟩]
    let address (ts : List Token) : Field := ⟨marked ts, some "address", .path (.ofName "Address")⟩
    let visits (ts : List Token) : Field := ⟨marked ts, some "visits", .path (.ofName "i32")⟩
    let cached : Field := ⟨marked [.word "skip"], some "cached", .path (.ofName "i32")⟩
    let ship : List Token := [.word "nested", .sign '=' false, .quoted "ship"]
    let both (first second : String) : List Token := [.word first, .sign ',' false, .word second]
    let order : TypeDeclaration :=
      ⟨[], "Order", .none, .named [address ship, visits [.word "default"], cached]⟩
    let contradicted : TypeDeclaration :=
      ⟨[], "Order", .none,
        .named [address (both "nested" "default"), visits (both "skip" "default"), cached]⟩
    let settled : List (Field × FieldSettings) :=
      [(address ship, ⟨none, some (some "ship"), false, false⟩),
        (visits [.word "default"], ⟨none, none, true, false⟩), (cached, ⟨none, none, false, true⟩)]
    (∃ r initializers, ofDeclaration order = .ok r ∧
      r.tokens = implementation "Order" .none initializers ∧
      List.Forall₂ (Initializes .snake) settled initializers) ∧
    ofDeclaration contradicted = .error [.here .nestedDefault, .here .skipConflict] := by
  intro marked address visits cached ship both order contradicted settled
  constructor
  · have hsettled : settledFields order.body = .ok settled := rfl
    obtain ⟨-, hrefused, -, hfills⟩ := fills_each_field_once rfl (by decide) rfl hsettled
    have hagree : ∀ f ∈ settled, ¬ f.2.Conflicting := by decide
    cases hresult : ofDeclaration order with
    | error ps =>
        obtain ⟨f, hf, hconflict⟩ := hrefused.mp ⟨ps, hresult⟩
        exact absurd hconflict (hagree f hf)
    | ok r =>
        obtain ⟨-, ⟨initializers, htokens, hinitializes⟩, -⟩ := hfills r hresult
        exact ⟨r, initializers, rfl, htokens, hinitializes⟩
  · have hsettled : settledFields contradicted.body = .ok
        [(address (both "nested" "default"), ⟨none, some none, true, false⟩),
          (visits (both "skip" "default"), ⟨none, none, true, true⟩),
          (cached, ⟨none, none, false, true⟩)] := rfl
    obtain ⟨-, hrefused, hproblems, -⟩ := fills_each_field_once rfl (by decide) rfl hsettled
    obtain ⟨ps, hps⟩ := hrefused.mpr ⟨_, List.mem_cons_self, by decide⟩
    rw [hps, hproblems ps hps]
    rfl

end Record

end QueryMethods
