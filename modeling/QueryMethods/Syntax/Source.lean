/-
Reading whole sources: a type, an identifier, a block of methods, the declaration of a
type.  A source that cannot be read has no reading; why is of no interest, since whoever
compiles it is told by the compiler.
-/
import QueryMethods.Syntax.ImplBlock
import QueryMethods.Syntax.Lexer
import QueryMethods.Syntax.RecordType

namespace QueryMethods.Syntax

/-- Reads all of a row of tokens by the grammar that suffices for it. -/
def readTokens {α : Type} (r : Grammar → Reader α) (ts : List Token) : Except SyntaxError α :=
  Reader.readAll (r (Grammar.forTokens ts)) ts

/-- Reads all of a source. -/
def readSource {α : Type} (r : Grammar → Reader α) (source : String) : Option α :=
  (tokenize source).bind (fun ts => (readTokens r ts).toOption)

/-- The type that a source is. -/
def Ty.ofSource (source : String) : Option Ty := readSource (·.readType true) source

/-- The path that a source is. -/
def Path.ofSource (source : String) : Option Path := readSource (·.readPath false) source

/-- The identifier that a source is; a raw one keeps its mark. -/
def identifierOfSource (source : String) : Option String :=
  readSource (fun _ => Reader.identifier) source

/-- The block of methods that a source is. -/
def ImplBlock.ofSource (source : String) : Option ImplBlock :=
  readSource Grammar.readImplBlock source

/-- The declaration of a type that a source is. -/
def TypeDeclaration.ofSource (source : String) : Option TypeDeclaration :=
  readSource Grammar.readTypeDeclaration source

end QueryMethods.Syntax
