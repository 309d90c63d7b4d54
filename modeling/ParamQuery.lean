import ParamQuery.Calendar.Date
import ParamQuery.Calendar.Printer
import ParamQuery.Calendar.Reader
import ParamQuery.Calendar.Timestamp
import ParamQuery.Database.Basic
import ParamQuery.Database.Memory
import ParamQuery.Database.Postgres
import ParamQuery.Database.Server
import ParamQuery.Declaration.Attribute
import ParamQuery.Declaration.Descriptor
import ParamQuery.Declaration.Grammar.Basic
import ParamQuery.Declaration.Grammar.Expression
import ParamQuery.Declaration.Grammar.Parameters
import ParamQuery.Declaration.Grammar.Pattern
import ParamQuery.Declaration.Grammar.Statement
import ParamQuery.Declaration.Grammar.Type
import ParamQuery.Declaration.Grammar.Whole
import ParamQuery.Declaration.Token
import ParamQuery.Declaration.Token.Reader
import ParamQuery.Entity.Basic
import ParamQuery.Entity.FieldMap
import ParamQuery.Entity.Routing
import ParamQuery.Error
import ParamQuery.Filter.Basic
import ParamQuery.Filter.Builder
import ParamQuery.Filter.Predicate
import ParamQuery.Filter.Script
import ParamQuery.Filter.View
import ParamQuery.Json.Basic
import ParamQuery.Json.Printer
import ParamQuery.Json.Reader
import ParamQuery.Number.Binary
import ParamQuery.Number.Decimal
import ParamQuery.Number.Decimal.Approximation
import ParamQuery.Number.Decimal.Reader
import ParamQuery.Number.Digits
import ParamQuery.Number.Integer
import ParamQuery.Number.Literal
import ParamQuery.Number.Notation
import ParamQuery.Number.Rounding
import ParamQuery.Number.Shortest
import ParamQuery.Outcome
import ParamQuery.Proofs.Calendar.Date
import ParamQuery.Proofs.Calendar.Offset
import ParamQuery.Proofs.Calendar.Reader
import ParamQuery.Proofs.Calendar.Timestamp
import ParamQuery.Proofs.Construction.Basic
import ParamQuery.Proofs.Construction.Binding
import ParamQuery.Proofs.Construction.Clause
import ParamQuery.Proofs.Construction.Erasure
import ParamQuery.Proofs.Construction.Literal
import ParamQuery.Proofs.Construction.Names
import ParamQuery.Proofs.Database.Course
import ParamQuery.Proofs.Database.Journal
import ParamQuery.Proofs.Database.Ledger
import ParamQuery.Proofs.Database.Mirror
import ParamQuery.Proofs.Database.Operation
import ParamQuery.Proofs.Database.Transaction
import ParamQuery.Proofs.Declaration.Options
import ParamQuery.Proofs.Declaration.Sequence
import ParamQuery.Proofs.Declaration.WellFormed
import ParamQuery.Proofs.Entity.Declared
import ParamQuery.Proofs.Entity.Insertions
import ParamQuery.Proofs.Entity.Items
import ParamQuery.Proofs.Entity.Layout
import ParamQuery.Proofs.Entity.Lookup
import ParamQuery.Proofs.Entity.Mapped
import ParamQuery.Proofs.Entity.Materialized
import ParamQuery.Proofs.Entity.Metadata
import ParamQuery.Proofs.Entity.Rewritten
import ParamQuery.Proofs.Filter.Applied
import ParamQuery.Proofs.Filter.Composition
import ParamQuery.Proofs.Filter.Erasure
import ParamQuery.Proofs.Filter.Lexemes
import ParamQuery.Proofs.Filter.Opaque
import ParamQuery.Proofs.Filter.Ordinals
import ParamQuery.Proofs.Filter.Outline
import ParamQuery.Proofs.Filter.Reading
import ParamQuery.Proofs.Filter.Shape
import ParamQuery.Proofs.Filter.Text
import ParamQuery.Proofs.Filter.Truth
import ParamQuery.Proofs.Filter.Unambiguous
import ParamQuery.Proofs.Number.BigEndian
import ParamQuery.Proofs.Number.Bits
import ParamQuery.Proofs.Number.Closeness
import ParamQuery.Proofs.Number.Decimal.Exact
import ParamQuery.Proofs.Number.Decimal.OfBinary
import ParamQuery.Proofs.Number.Decimal.ToBinary
import ParamQuery.Proofs.Number.Digits
import ParamQuery.Proofs.Number.Halfway
import ParamQuery.Proofs.Number.Integer
import ParamQuery.Proofs.Number.Literal
import ParamQuery.Proofs.Select.Completeness
import ParamQuery.Proofs.Select.Entries
import ParamQuery.Proofs.Select.Independence
import ParamQuery.Proofs.Select.Literal
import ParamQuery.Proofs.Select.Origins
import ParamQuery.Proofs.Select.OutputName
import ParamQuery.Proofs.Select.Parts
import ParamQuery.Proofs.Select.Restriction
import ParamQuery.Proofs.Select.Text
import ParamQuery.Proofs.Settings.Pairs
import ParamQuery.Proofs.Statement.Allocation
import ParamQuery.Proofs.Statement.Binding
import ParamQuery.Proofs.Statement.Intended
import ParamQuery.Proofs.Statement.Markers
import ParamQuery.Proofs.Statement.Names
import ParamQuery.Proofs.Statement.Slots
import ParamQuery.Proofs.Statement.Substitution
import ParamQuery.Proofs.Text.Literal
import ParamQuery.Proofs.Text.Normal
import ParamQuery.Proofs.Text.Spacing
import ParamQuery.Proofs.Text.Trimmed
import ParamQuery.Proofs.Value.Agreement
import ParamQuery.Proofs.Value.Instant
import ParamQuery.Proofs.Value.Narrowing
import ParamQuery.Proofs.Value.Numbers
import ParamQuery.Proofs.Value.Received
import ParamQuery.Proofs.Value.RoundTrip
import ParamQuery.Proofs.Value.Temporal
import ParamQuery.Proofs.Value.Whole
import ParamQuery.Proofs.Write.Text
import ParamQuery.Repository
import ParamQuery.Row
import ParamQuery.Select.Fetch
import ParamQuery.Select.Projection
import ParamQuery.Select.Query
import ParamQuery.Select.Statement
import ParamQuery.Settings.Basic
import ParamQuery.Settings.Document
import ParamQuery.Statement.Dialect
import ParamQuery.Statement.Markers
import ParamQuery.Statement.Params
import ParamQuery.Text.Ascii
import ParamQuery.Text.Blank
import ParamQuery.Text.Hex
import ParamQuery.Text.Identifier
import ParamQuery.Text.Quoted
import ParamQuery.Text.Shown
import ParamQuery.Text.Utf8
import ParamQuery.Toml.Basic
import ParamQuery.Toml.Reader
import ParamQuery.Toml.Scalar
import ParamQuery.Uuid
import ParamQuery.Value.Basic
import ParamQuery.Value.Binding
import ParamQuery.Value.Cell
import ParamQuery.Value.Coercion
import ParamQuery.Value.PgType
import ParamQuery.Write.Basic
import ParamQuery.Write.Statement
