import QueryMethods.Binding
import QueryMethods.BoundStatement
import QueryMethods.Candidate
import QueryMethods.Code
import QueryMethods.Code.Emitter
import QueryMethods.Code.Run
import QueryMethods.Datum
import QueryMethods.Emitter
import QueryMethods.Emitter.Trace
import QueryMethods.Entity
import QueryMethods.Executor
import QueryMethods.Executor.Script
import QueryMethods.Expansion
import QueryMethods.Failure
import QueryMethods.Generation
import QueryMethods.Identifier
import QueryMethods.Issue
import QueryMethods.Library
import QueryMethods.Mapping
import QueryMethods.MethodName
import QueryMethods.MethodName.Reader
import QueryMethods.Naming
import QueryMethods.Number.Binary
import QueryMethods.Number.DecimalText
import QueryMethods.Number.Shortest
import QueryMethods.Outcome
import QueryMethods.Plan
import QueryMethods.Planning
import QueryMethods.Proofs.MethodName.LongestWord
import QueryMethods.Proofs.MethodName.Segments
import QueryMethods.Record
import QueryMethods.Repository
import QueryMethods.Row
import QueryMethods.Settings.Gather
import QueryMethods.Settings.Item
import QueryMethods.Settings.Problem
import QueryMethods.Settings.Query
import QueryMethods.Settings.Repository
import QueryMethods.Settings.Value
import QueryMethods.Shape
import QueryMethods.Sql.Derived
import QueryMethods.Sql.Kind
import QueryMethods.Sql.Marker
import QueryMethods.Sql.Template
import QueryMethods.Syntax.Attribute
import QueryMethods.Syntax.Expression
import QueryMethods.Syntax.ExpressionReader
import QueryMethods.Syntax.Generics
import QueryMethods.Syntax.Grammar
import QueryMethods.Syntax.ImplBlock
import QueryMethods.Syntax.Lexer
import QueryMethods.Syntax.LiteralReader
import QueryMethods.Syntax.Method
import QueryMethods.Syntax.PatternReader
import QueryMethods.Syntax.Phrase
import QueryMethods.Syntax.Reader
import QueryMethods.Syntax.RecordType
import QueryMethods.Syntax.Shape
import QueryMethods.Syntax.Source
import QueryMethods.Syntax.StatementReader
import QueryMethods.Syntax.Token
import QueryMethods.Syntax.Type
import QueryMethods.Syntax.TypeReader
import QueryMethods.Text.Blank
import QueryMethods.Text.Case
import QueryMethods.Text.CaseRun
import QueryMethods.Text.CharSet
import QueryMethods.Text.Identifier
import QueryMethods.Text.Property.CaseIgnorable
import QueryMethods.Text.Property.Cased
import QueryMethods.Text.Property.Hidden
import QueryMethods.Text.Property.IdentifierPart
import QueryMethods.Text.Property.IdentifierStart
import QueryMethods.Text.Property.Lower
import QueryMethods.Text.Property.Upper
import QueryMethods.Text.Quoted
import QueryMethods.Text.Resemblance
import QueryMethods.Text.Word
import QueryMethods.Value
import QueryMethods.Value.Codec
import QueryMethods.Proofs.MethodName.Writing
import QueryMethods.Proofs.Sql.Layout
import QueryMethods.Proofs.Sql.Slots
import QueryMethods.Proofs.Sql.Markers
import QueryMethods.Proofs.Planning.Agreement
import QueryMethods.Proofs.Generation.Coverage
import QueryMethods.Proofs.Generation.NoFailure
import QueryMethods.Proofs.Sql.Rewriting
import QueryMethods.Proofs.Planning.Statement
import QueryMethods.Proofs.Planning.Validation
import QueryMethods.Proofs.Syntax.RowTypes
import QueryMethods.Proofs.Generation.Requests
import QueryMethods.Proofs.Generation.Protocol
import QueryMethods.Proofs.Generation.Fallback
import QueryMethods.Proofs.Generation.Saving
import QueryMethods.Proofs.Expansion.InTurn
import QueryMethods.Proofs.Value.RoundTrip
import QueryMethods.Proofs.Expansion.Independence
import QueryMethods.Proofs.Expansion.Frame
import QueryMethods.Proofs.Expansion.Strictness
import QueryMethods.Proofs.Generation.Accountability
import QueryMethods.Proofs.Row.Renaming
import QueryMethods.Proofs.Planning.Filters
import QueryMethods.Proofs.MethodName.Connectors
import QueryMethods.Proofs.Planning.Verdict
import QueryMethods.Proofs.Mapping.Strategies
import QueryMethods.Proofs.Row.Taking
import QueryMethods.Proofs.Value.Widening
import QueryMethods.Proofs.Row.ColumnMap
import QueryMethods.Proofs.Record.Depth
import QueryMethods.Proofs.Record.Initializers
import QueryMethods.Proofs.Row.Reordering
import QueryMethods.Proofs.Executor.Handing
import QueryMethods.Proofs.Naming.WordBreaks
import QueryMethods.Proofs.Naming.TableNames
import QueryMethods.Proofs.Generation.Bodies
