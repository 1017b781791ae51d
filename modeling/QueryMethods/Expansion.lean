/-
The expansion of a block of methods.

A method with a query, or without a body, gets a generated body; if there is none to be
had, a body that is there stays, and an empty one becomes a call that says why.  The
attributes that only the expansion reads are removed.  Issues never stop the expansion: they
become warnings in front of the body or, where the settings are strict, errors behind the
block.

A block is expanded item by item, with one emitter that is switched from method to method
and with the problems and the errors of all items so far.  An item can also be expanded on
its own, with an emitter of its own.
-/
import QueryMethods.Code.Emitter
import QueryMethods.Generation
import QueryMethods.Settings.Gather
import QueryMethods.Settings.Query
import QueryMethods.Settings.Repository
import QueryMethods.Syntax.ImplBlock

namespace QueryMethods

open Syntax (Attribute ImplBlock ImplHeader ImplItem Input Method Token)

/-- What the methods of a block are generated from. -/
structure Surroundings where
  context : Context
  /-- The field of the repository that runs statements. -/
  executor : String
  /-- The fields of the entity: the name that methods use for each, and its identifier. -/
  fields : List (String × String)

/-- The surroundings that settings describe. -/
def RepositorySettings.surroundings (s : RepositorySettings) : Except Problem Surroundings := do
  pure ⟨← s.context, ← s.executorName, ← s.fieldNames⟩

/-! ### What only the expansion reads -/

/-- A parameter without the attributes that rename it. -/
def withoutRenames : Input → Input
  | .typed attributes pattern type => .typed (attributes.filter (!isRename ·)) pattern type
  | input => input

/-- A method without the attributes that give its query and rename its parameters. -/
def withoutSettings (m : Method) : Method :=
  { m with
    attributes := m.attributes.filter (!QuerySettings.isQuery ·)
    header := { m.header with inputs := m.header.inputs.map (fun (i, c) => (withoutRenames i, c)) } }

/-- The new names of the parameters with a type, in order. -/
def renamesOf (m : Method) : Except Problem (List (Option String)) :=
  (m.header.inputs.filterMap (fun (i, _) => match i with
    | .typed attributes _ _ => some attributes
    | _ => none)).mapM renameOf

/-! ### New bodies -/

/-- What becomes of the body of a method. -/
inductive NewBody
  /-- It stays. -/
  | kept
  /-- It was empty, and a call that gives the reason takes its place. -/
  | refused (reason : Issue)
  /-- It is generated. -/
  | generated (c : Code)

namespace NewBody

/-- The statements of a new body in the place of old ones. -/
def statements (old : List (List Token)) : NewBody → List (List Token)
  | kept => old
  | refused reason => [Syntax.unimplementedCall reason.message]
  | generated c => c.statements

/-- The body of a method that nothing is generated for. -/
def unlessEmpty (m : Method) (reason : Issue) : NewBody :=
  if m.body.isEmpty then refused reason else kept

/-- The body that an outcome leaves a method with. -/
def ofOutcome (m : Method) (outcome : Outcome Code) : NewBody :=
  match outcome.value?, outcome.issues with
  | some c, _ => generated c
  | none, reason :: _ => unlessEmpty m reason
  | none, [] => kept

end NewBody

/-- A method with what becomes of its body and what is wrong with it. -/
structure MethodExpansion where
  method : Method
  body : NewBody
  issues : List Issue

namespace Surroundings

/-- Generates the body of a candidate. -/
def generate (s : Surroundings) (c : Candidate) (query : Option QuerySettings) : Outcome Code :=
  let source : CodeSource := ⟨s.executor, s.fields, c, query.bind (·.resultType)⟩
  ((generateMethod s.context source.emitter c.signature (query.map (·.toQuery))).run ()).1

/-- Expands a method whose settings are read.  A method with a body and without a query is
none of its business. -/
def expandBody (s : Surroundings) (m : Method) (query : Option QuerySettings)
    (renames : List (Option String)) : MethodExpansion :=
  if query.isNone && !m.body.isEmpty then ⟨m, .kept, []⟩
  else
    match Candidate.ofMethod m renames with
    | .error issue => ⟨m, .unlessEmpty m issue, [issue]⟩
    | .ok candidate =>
      let outcome := s.generate candidate query
      ⟨m, .ofOutcome m outcome, outcome.issues⟩

/-- Expands a method. -/
def expandMethod (s : Surroundings) (m : Method) : Except (List Problem) MethodExpansion := do
  let (query, renames) ← both (QuerySettings.ofAttributes m.attributes) (alone (renamesOf m))
  pure (s.expandBody (withoutSettings m) query renames)

end Surroundings

/-! ### Showing issues -/

/-- The text that shows an issue with its code. -/
def Issue.note (issue : Issue) : String := s!"{issue.message} [sqlgen::{issue.code}]"

/-- A statement that the compiler warns about with the text of an issue. -/
def warningStatement (issue : Issue) : List Token :=
  let mark (name : String) (inner : List Token) : List Token :=
    .sign '#' false :: Syntax.inBrackets (.word name :: Syntax.inParens inner)
  Syntax.inBraces
    (mark "deprecated" [.word "note", .sign '=' false, .quoted issue.note] ++
      mark "allow" [.word "non_camel_case_types"] ++
      [.word "struct", .word "sqlgen_issue"] ++ Syntax.semicolon ++
      Syntax.letStatement "_" [.word "sqlgen_issue"])

/-- An item that the compiler refuses with the text of an issue. -/
def errorItem (issue : Issue) : List Token := Syntax.compileErrorCall issue.note

namespace MethodExpansion

/-- The statements of the new body, without warnings. -/
def statements (e : MethodExpansion) : List (List Token) := e.body.statements e.method.body

/-- The method with its new body; unless issues are errors, a warning for each comes
first. -/
def result (strict : Bool) (e : MethodExpansion) : Method :=
  { e.method with
    body := (if strict then [] else e.issues.map warningStatement) ++ e.statements }

/-- The errors that stand behind the block. -/
def errors (strict : Bool) (e : MethodExpansion) : List (List Token) :=
  if strict then e.issues.map errorItem else []

end MethodExpansion

/-! ### Blocks -/

/-- An item of a block that is expanded. -/
inductive ItemExpansion
  | method (e : MethodExpansion)
  | other (tokens : List Token)

namespace ItemExpansion

/-- The item with its new body. -/
def result (strict : Bool) : ItemExpansion → ImplItem
  | method e => .method (e.result strict)
  | other ts => .other ts

/-- The errors that stand behind the block. -/
def errors (strict : Bool) : ItemExpansion → List (List Token)
  | method e => e.errors strict
  | other _ => []

end ItemExpansion

/-- An expanded block and the errors behind it. -/
structure Expansion where
  block : ImplBlock
  errors : List (List Token)

/-- The tokens of an expanded block and what stands behind it. -/
def Expansion.tokens (e : Expansion) : List Token := e.block.tokens ++ e.errors.flatten

namespace Surroundings

/-- Expands an item on its own. -/
def expandItem (s : Surroundings) : ImplItem → Except (List Problem) ItemExpansion
  | .method m => (s.expandMethod m).map .method
  | .other ts => .ok (.other ts)

/-- Expands items, each on its own. -/
def expandItems (s : Surroundings) (items : List ImplItem) :
    Except (List Problem) (List ItemExpansion) :=
  gather (items.map s.expandItem)

end Surroundings

/-! ### Blocks, item by item -/

/-- What is carried from one item of a block to the next. -/
structure Progress where
  /-- The source that the emitter of the block makes code for, once there was one. -/
  current : Option CodeSource
  /-- The problems with the settings of methods. -/
  problems : List Problem
  /-- The errors that will stand behind the block. -/
  errors : List (List Token)

namespace Progress

/-- What there is before the first item. -/
def start : Progress := ⟨none, [], []⟩

/-- A value, unless there are problems instead, which are noted. -/
def handle {α : Type} : Except (List Problem) α → StateM Progress (Option α)
  | .ok a => pure (some a)
  | .error ps => do
    modify (fun p => { p with problems := p.problems ++ ps })
    pure none

end Progress

namespace Surroundings

/-- Switches the emitter of the block to a candidate and generates its body. -/
def generateNext (s : Surroundings) (c : Candidate) (query : Option QuerySettings) :
    StateM Progress (Outcome Code) := fun p =>
  let source : CodeSource := ⟨s.executor, s.fields, c, query.bind (·.resultType)⟩
  let (outcome, current) := (generateMethod s.context CodeSource.blockEmitter c.signature
    (query.map (·.toQuery))).run (some source)
  (outcome, { p with current })

/-- Expands the next method of a block, whose settings are read.  The emitter is switched
only once there is a candidate. -/
def expandNextBody (s : Surroundings) (m : Method) (query : Option QuerySettings)
    (renames : List (Option String)) : StateM Progress MethodExpansion :=
  if query.isNone && !m.body.isEmpty then pure ⟨m, .kept, []⟩
  else
    match Candidate.ofMethod m renames with
    | .error issue => pure ⟨m, .unlessEmpty m issue, [issue]⟩
    | .ok candidate => do
      let outcome ← s.generateNext candidate query
      pure ⟨m, .ofOutcome m outcome, outcome.issues⟩

/-- Expands the next item of a block.  A method whose settings cannot be read is left without
them; its problems refuse the block in the end. -/
def expandNext (s : Surroundings) : ImplItem → StateM Progress ImplItem
  | .other ts => pure (.other ts)
  | .method m => do
    let query ← Progress.handle (QuerySettings.ofAttributes m.attributes)
    let renames ← Progress.handle (alone (renamesOf m))
    match query, renames with
    | some query, some renames =>
      let e ← s.expandNextBody (withoutSettings m) query renames
      modify (fun p => { p with errors := p.errors ++ e.errors s.context.strict })
      pure (.method (e.result s.context.strict))
    | _, _ => pure (.method (withoutSettings m))

/-- Expands a block. -/
def expandBlock (s : Surroundings) (b : ImplBlock) : Except (List Problem) Expansion :=
  let (items, p) := (b.items.mapM s.expandNext).run Progress.start
  if p.problems.isEmpty then .ok { block := { b with items }, errors := p.errors }
  else .error p.problems

end Surroundings

/-- Expands a block under its settings. -/
def RepositorySettings.expand (s : RepositorySettings) (b : ImplBlock) :
    Except (List Problem) Expansion := do
  (← alone s.surroundings).expandBlock b

/-- Why a source cannot be expanded. -/
inductive ExpansionError
  /-- The settings cannot be read. -/
  | settingsUnreadable
  /-- The item cannot be read. -/
  | itemUnreadable
  /-- The settings are read and mean nothing. -/
  | problems (ps : List Problem)

/-- The settings and the block that sources give.  The settings are read first, and they must
mean something before the block is read. -/
def readRepository (settings item : String) :
    Except ExpansionError (RepositorySettings × ImplBlock) := do
  let some tokens := Syntax.tokenize settings | throw .settingsUnreadable
  let .ok items := SettingItem.readList tokens | throw .settingsUnreadable
  let repository ← (RepositorySettings.ofItems items).mapError .problems
  let some block := ImplBlock.ofSource item | throw .itemUnreadable
  pure (repository, block)

/-- Expands a block from the sources of its settings and of the block. -/
def expandSource (settings item : String) : Except ExpansionError Expansion := do
  let (repository, block) ← readRepository settings item
  (repository.expand block).mapError .problems

end QueryMethods
