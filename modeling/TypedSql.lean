import TypedSql.Calendar.Date
import TypedSql.Calendar.Rfc3339
import TypedSql.Calendar.Text
import TypedSql.Calendar.Timestamp
import TypedSql.Codec.Basic
import TypedSql.Codec.Plain
import TypedSql.Codec.Registry
import TypedSql.Codec.Sample
import TypedSql.Database.Basic
import TypedSql.Database.Entity
import TypedSql.Database.Execution
import TypedSql.Database.Settings
import TypedSql.Description.Config
import TypedSql.Description.Data
import TypedSql.Description.Database
import TypedSql.Description.Error
import TypedSql.Description.Row
import TypedSql.Description.Scenario
import TypedSql.Description.Sqlite
import TypedSql.Description.Statement
import TypedSql.Description.Store
import TypedSql.Description.Table
import TypedSql.Description.Value
import TypedSql.Error
import TypedSql.Log
import TypedSql.Number.Binary
import TypedSql.Number.BinaryReader
import TypedSql.Number.Decimal
import TypedSql.Number.DecimalReader
import TypedSql.Number.Integer
import TypedSql.Number.Shortest
import TypedSql.Proofs.Calendar.Instant
import TypedSql.Proofs.Calendar.Literal
import TypedSql.Proofs.Calendar.Reach
import TypedSql.Proofs.Calendar.ReadBack
import TypedSql.Proofs.Codec.Derivation
import TypedSql.Proofs.Database.Binding
import TypedSql.Proofs.Database.Changes
import TypedSql.Proofs.Database.Delivery
import TypedSql.Proofs.Database.Forwarding
import TypedSql.Proofs.Database.Insertion
import TypedSql.Proofs.Database.Keys
import TypedSql.Proofs.Database.Mapping
import TypedSql.Proofs.Database.Preparing
import TypedSql.Proofs.Database.Refusals
import TypedSql.Proofs.Database.Registration
import TypedSql.Proofs.Database.Rows
import TypedSql.Proofs.Database.Streaming
import TypedSql.Proofs.Number.Numeral
import TypedSql.Proofs.Number.ReadBack
import TypedSql.Proofs.Number.Shape
import TypedSql.Proofs.Number.Written
import TypedSql.Proofs.Query.Count
import TypedSql.Proofs.Query.Fields
import TypedSql.Proofs.Query.Meaning
import TypedSql.Proofs.Session.Account
import TypedSql.Proofs.Session.Acts
import TypedSql.Proofs.Session.Client
import TypedSql.Proofs.Session.Closing
import TypedSql.Proofs.Session.Confined
import TypedSql.Proofs.Session.Connections
import TypedSql.Proofs.Session.Course
import TypedSql.Proofs.Session.Ending
import TypedSql.Proofs.Session.Exchanges
import TypedSql.Proofs.Session.Handles
import TypedSql.Proofs.Session.Orderly
import TypedSql.Proofs.Session.Reentry
import TypedSql.Proofs.Session.Replay
import TypedSql.Proofs.Session.Restored
import TypedSql.Proofs.Session.Scope
import TypedSql.Proofs.Session.Settings
import TypedSql.Proofs.Session.Statements
import TypedSql.Proofs.Session.Threads
import TypedSql.Proofs.Sql.Backslash
import TypedSql.Proofs.Sql.Comment
import TypedSql.Proofs.Sql.Token
import TypedSql.Proofs.Sqlite.Autocommit
import TypedSql.Proofs.Sqlite.Controls
import TypedSql.Proofs.Sqlite.Inline
import TypedSql.Proofs.Sqlite.RoundTrip
import TypedSql.Proofs.Sqlite.Scope
import TypedSql.Proofs.Sqlite.Settings
import TypedSql.Proofs.Statement.Collect
import TypedSql.Proofs.Statement.Induction
import TypedSql.Proofs.Statement.Listing
import TypedSql.Proofs.Statement.Literals
import TypedSql.Proofs.Statement.Nodes
import TypedSql.Proofs.Statement.NotNull
import TypedSql.Proofs.Table.Decoding
import TypedSql.Proofs.Table.Lookup
import TypedSql.Proofs.Text.Digits
import TypedSql.Proofs.Text.Hex
import TypedSql.Proofs.Text.Separation
import TypedSql.Proofs.Text.Trim
import TypedSql.Proofs.Text.Truncation
import TypedSql.Proofs.Wire.Integers
import TypedSql.Proofs.Wire.Lossless
import TypedSql.Proofs.Wire.Moments
import TypedSql.Proofs.Writer.Aliases
import TypedSql.Proofs.Writer.Casing
import TypedSql.Proofs.Writer.Collisions
import TypedSql.Proofs.Writer.Comments
import TypedSql.Proofs.Writer.Congruence
import TypedSql.Proofs.Writer.Entities
import TypedSql.Proofs.Writer.Frame
import TypedSql.Proofs.Writer.Grammar
import TypedSql.Proofs.Writer.HandWritten
import TypedSql.Proofs.Writer.Hurdles
import TypedSql.Proofs.Writer.Identifiers
import TypedSql.Proofs.Writer.Injection
import TypedSql.Proofs.Writer.Listed
import TypedSql.Proofs.Writer.Marks
import TypedSql.Proofs.Writer.Nulls
import TypedSql.Proofs.Writer.Operands
import TypedSql.Proofs.Writer.Outside
import TypedSql.Proofs.Writer.Paging
import TypedSql.Proofs.Writer.Parameters
import TypedSql.Proofs.Writer.Parts
import TypedSql.Proofs.Writer.Phrase
import TypedSql.Proofs.Writer.Placeholders
import TypedSql.Proofs.Writer.References
import TypedSql.Proofs.Writer.Resolution
import TypedSql.Proofs.Writer.Spacing
import TypedSql.Proofs.Writer.Stepwise
import TypedSql.Proofs.Writer.Tokens
import TypedSql.Proofs.Writer.Vocabulary
import TypedSql.Row
import TypedSql.Scenario.Play
import TypedSql.Scenario.Stage
import TypedSql.Scenario.Step
import TypedSql.Session.Manager
import TypedSql.Session.Transaction
import TypedSql.Session.World
import TypedSql.Sqlite.Connection
import TypedSql.Sqlite.Engine
import TypedSql.Sqlite.Notebook
import TypedSql.Sqlite.Storage
import TypedSql.Sqlite.Url
import TypedSql.Sqlite.Violation
import TypedSql.Statement.Build
import TypedSql.Statement.Columns
import TypedSql.Statement.Syntax
import TypedSql.Store.Call
import TypedSql.Store.Driver
import TypedSql.Store.Scripted
import TypedSql.Suite.Books
import TypedSql.Suite.Check
import TypedSql.Suite.Transactions
import TypedSql.Suite.Users
import TypedSql.Table.Basic
import TypedSql.Table.Column
import TypedSql.Table.Debug
import TypedSql.Table.Record
import TypedSql.Table.Ref
import TypedSql.Table.Result
import TypedSql.Text.Alphanumeric
import TypedSql.Text.Blank
import TypedSql.Text.CodeRange
import TypedSql.Text.Cut
import TypedSql.Text.Digits
import TypedSql.Text.Escaped
import TypedSql.Text.Hex
import TypedSql.Text.Lowercase
import TypedSql.Text.Quoted
import TypedSql.Text.Utf8
import TypedSql.Uuid
import TypedSql.Wire.Conversion
import TypedSql.Wire.Text
import TypedSql.Wire.Type
import TypedSql.Wire.Value
import TypedSql.Writer.Config
import TypedSql.Writer.Dialect
import TypedSql.Writer.Keywords
import TypedSql.Writer.Literal
import TypedSql.Writer.Pagination
import TypedSql.Writer.Piece
import TypedSql.Writer.Render
import TypedSql.Writer.Scope
