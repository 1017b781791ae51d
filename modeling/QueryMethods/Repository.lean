/-
Repositories that can be asked.

A repository is the expansion of a block of methods.  A call of one of its methods runs the
code that was generated for it.
-/
import QueryMethods.Code.Run
import QueryMethods.Expansion

namespace QueryMethods

open Syntax (Ty)

/-- The methods of an expanded block. -/
structure Repository where
  methods : List MethodExpansion

/-- The method that an item is. -/
def ItemExpansion.method? : ItemExpansion → Option MethodExpansion
  | method e => some e
  | other _ => none

/-- The identifiers and the types of the parameters, if all are plain. -/
def MethodExpansion.parameters? (e : MethodExpansion) : Option (List (String × Ty)) :=
  Candidate.plainInputs e.method

/-- The code that was generated for a method. -/
def MethodExpansion.code? (e : MethodExpansion) : Option Code :=
  match e.body with
  | .generated c => some c
  | .kept | .refused _ => none

/-- Runs a method with data for its parameters, in order. -/
def MethodExpansion.run {σ : Type} (e : MethodExpansion) (l : Library) (executor : Executor σ)
    (arguments : List Datum) : Run σ Datum := do
  let parameters ← Run.ofOption e.parameters?
  let code ← Run.ofOption e.code?
  code.run ⟨l, executor, (parameters.map (·.1)).zip arguments⟩

namespace Repository

/-- The repository that the sources of settings and of a block give. -/
def ofSource (settings item : String) : Except ExpansionError Repository := do
  let (repository, block) ← readRepository settings item
  let surroundings ← (alone repository.surroundings).mapError .problems
  let items ← (surroundings.expandItems block.items).mapError .problems
  pure ⟨items.filterMap ItemExpansion.method?⟩

/-- A method by its name. -/
def method? (r : Repository) (name : String) : Option MethodExpansion :=
  r.methods.find? (·.method.header.name == name)

end Repository

end QueryMethods
