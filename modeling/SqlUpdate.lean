import SqlUpdate.Binary64.Reading
import SqlUpdate.Main
import SqlUpdate.Storage.Opening
import SqlUpdate.Proofs.Binding.Order
import SqlUpdate.Proofs.Binding.Filling
import SqlUpdate.Proofs.Binding.Values
import SqlUpdate.Proofs.Binding.StatementFile
import SqlUpdate.Proofs.Execution.Protocol
import SqlUpdate.Proofs.Lexical.Clauses
import SqlUpdate.Proofs.Lexical.Literal
import SqlUpdate.Proofs.Lexical.Scan
import SqlUpdate.Proofs.Lexical.Pieces
import SqlUpdate.Proofs.Lexical.Safety
import SqlUpdate.Proofs.Reading.Token
import SqlUpdate.Proofs.Reading.PieceTokens
import SqlUpdate.Proofs.Reading.Condition
import SqlUpdate.Proofs.Reading.Reader
import SqlUpdate.Proofs.Reading.Rules
import SqlUpdate.Proofs.Reading.Expressions
import SqlUpdate.Proofs.Reading.Clauses
import SqlUpdate.Proofs.Reading.Conjunctions
import SqlUpdate.Proofs.Reading.RowFilter
import SqlUpdate.Proofs.Statement.Acceptance
import SqlUpdate.Proofs.Statement.AssignedColumns
import SqlUpdate.Proofs.Statement.OuterJoins
import SqlUpdate.Proofs.Statement.Keywords
import SqlUpdate.Proofs.Statement.RowLimit
import SqlUpdate.Proofs.Statement.Modes
import SqlUpdate.Proofs.Statement.Vendors
import SqlUpdate.Proofs.Lexical.Escapes
import SqlUpdate.Proofs.Lexical.InlinedTexts
import SqlUpdate.Proofs.Statement.Joins
import SqlUpdate.Proofs.Statement.Building
import SqlUpdate.Proofs.Statement.InlineView
import SqlUpdate.Proofs.StatementFile.Loading
import SqlUpdate.Proofs.Reading.RoundTrip
import SqlUpdate.Proofs.Lexical.Identifiers
import SqlUpdate.Proofs.Lexical.Decoding
import SqlUpdate.Proofs.Statement.Refusal
import SqlUpdate.Proofs.StatementFile.Format
import SqlUpdate.Proofs.Json.Arguments
import SqlUpdate.Proofs.Dialect.Names
import SqlUpdate.Proofs.Dialect.Sources
import SqlUpdate.Proofs.Expr.Appending
import SqlUpdate.Proofs.Schema.Registration
