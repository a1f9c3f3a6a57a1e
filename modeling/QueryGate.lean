import QueryGate.Command.Invocation
import QueryGate.Command.Run
import QueryGate.Command.Server
import QueryGate.Connection.Circuit
import QueryGate.Connection.Config
import QueryGate.Connection.Deadline
import QueryGate.Connection.Dialect
import QueryGate.Connection.Engine
import QueryGate.Connection.EngineScript
import QueryGate.Connection.Handle
import QueryGate.Connection.Pool
import QueryGate.Connection.Rehearsal
import QueryGate.Connection.Rows
import QueryGate.Console.Emoji
import QueryGate.Console.EmojiNames
import QueryGate.Console.Markup
import QueryGate.Console.Report
import QueryGate.Console.Style
import QueryGate.Console.Table
import QueryGate.Console.Width
import QueryGate.Console.Wrap
import QueryGate.Failure
import QueryGate.Http.Body
import QueryGate.Http.Gateway
import QueryGate.Http.Message
import QueryGate.Http.Route
import QueryGate.Json.Encoding
import QueryGate.Json.Reader
import QueryGate.Json.Value
import QueryGate.Json.Writer
import QueryGate.Log.Event
import QueryGate.Log.Record
import QueryGate.Log.Setup
import QueryGate.Log.Template
import QueryGate.Log.Timestamp
import QueryGate.Main
import QueryGate.Number.Fixed
import QueryGate.Number.FloatText
import QueryGate.Number.Integer
import QueryGate.Number.Power
import QueryGate.Number.Read
import QueryGate.Number.Shortest
import QueryGate.Payload.Issue
import QueryGate.Payload.Reading
import QueryGate.Proofs.Connection.Balance
import QueryGate.Proofs.Connection.Interleaving
import QueryGate.Proofs.Connection.JobInvariant
import QueryGate.Proofs.Connection.Ledger
import QueryGate.Proofs.Connection.Ownership
import QueryGate.Proofs.Connection.Onward
import QueryGate.Proofs.Connection.Admission
import QueryGate.Proofs.Connection.Sharing
import QueryGate.Proofs.Alike
import QueryGate.Proofs.Connection.Likeness
import QueryGate.Proofs.Connection.Credential
import QueryGate.Proofs.Connection.Serial
import QueryGate.Proofs.Connection.Worker
import QueryGate.Proofs.Service.SentTexts
import QueryGate.Proofs.Service.Watch
import QueryGate.Proofs.Session
import QueryGate.Proofs.Statement.Adapted
import QueryGate.Proofs.Statement.Accepted
import QueryGate.Proofs.Statement.Occurrence
import QueryGate.Query.Encoding
import QueryGate.Query.Frame
import QueryGate.Query.Request
import QueryGate.Query.Response
import QueryGate.Query.Select
import QueryGate.Query.Visual
import QueryGate.Service.Batch
import QueryGate.Service.Health
import QueryGate.Service.Namespace
import QueryGate.Service.Query
import QueryGate.Service.Resource
import QueryGate.Session
import QueryGate.Settings.Basic
import QueryGate.Settings.EnvFile
import QueryGate.Shape
import QueryGate.Sql.Function
import QueryGate.Sql.Grammar.Basic
import QueryGate.Sql.Grammar.Call
import QueryGate.Sql.Grammar.Command
import QueryGate.Sql.Grammar.Name
import QueryGate.Sql.Grammar.Operand
import QueryGate.Sql.Grammar.Operator
import QueryGate.Sql.Grammar.Order
import QueryGate.Sql.Grammar.Query
import QueryGate.Sql.Grammar.Source
import QueryGate.Sql.Grammar.Type
import QueryGate.Sql.Identifier
import QueryGate.Sql.Parser
import QueryGate.Sql.StringLiteral
import QueryGate.Sql.Token
import QueryGate.Sql.Token.Keyword
import QueryGate.Sql.Token.Lexer
import QueryGate.Sql.Tree
import QueryGate.Statement.Catalog
import QueryGate.Statement.Denied
import QueryGate.Statement.ReadOnly
import QueryGate.Statement.RowCap
import QueryGate.Text.Blank
import QueryGate.Text.CaseMap
import QueryGate.Text.Digit
import QueryGate.Text.Literal
import QueryGate.Text.Percent
import QueryGate.Text.Printable
import QueryGate.Text.Ranges
import QueryGate.Text.Utf8
import QueryGate.Text.WordChar
import QueryGate.Value.Calendar
import QueryGate.Value.Cell
import QueryGate.Value.Decimal
import QueryGate.Value.Display
import QueryGate.Value.Literal
import QueryGate.Proofs.Service.Course
import QueryGate.Proofs.Json.Written
import QueryGate.Proofs.Service.Entries
import QueryGate.Proofs.Service.Keys
import QueryGate.Proofs.Query.Call
import QueryGate.Proofs.Query.Clause
import QueryGate.Proofs.Query.Definition
import QueryGate.Proofs.Query.Precedence
import QueryGate.Proofs.Service.Picking
import QueryGate.Proofs.Service.Lookup
import QueryGate.Proofs.Service.Discovery
import QueryGate.Proofs.Service.LookupText
import QueryGate.Proofs.Sql.Naming
import QueryGate.Proofs.Statement.CatalogReference
import QueryGate.Proofs.Text.Spacing
import QueryGate.Proofs.Text.Literal
import QueryGate.Proofs.Connection.UrlPassword
import QueryGate.Proofs.Service.Outcomes
import QueryGate.Proofs.Connection.Ping
import QueryGate.Proofs.Service.Stamping
import QueryGate.Proofs.Connection.PoolLines
import QueryGate.Proofs.Http.Tracing
import QueryGate.Proofs.Json.ReadBack
import QueryGate.Proofs.Http.Payload
import QueryGate.Proofs.Http.Replies
import QueryGate.Proofs.Service.Tabulation
import QueryGate.Proofs.Statement.Capped
import QueryGate.Proofs.Statement.Place
import QueryGate.Proofs.Statement.Letter
import QueryGate.Proofs.Query.Range
import QueryGate.Proofs.Query.Identifiers
import QueryGate.Proofs.Query.Buildable
import QueryGate.Proofs.Connection.Report
import QueryGate.Proofs.Connection.Attempts
import QueryGate.Proofs.Connection.Batches
import QueryGate.Proofs.Follows
import QueryGate.Proofs.Json.Limits
import QueryGate.Proofs.Connection.Contact
import QueryGate.Proofs.Connection.Settings
import QueryGate.Proofs.Payload.Field
import QueryGate.Proofs.Number.FloatOrder
import QueryGate.Proofs.Connection.Ranges
import QueryGate.Proofs.Text.Utf8
import QueryGate.Proofs.Text.Percent
import QueryGate.Proofs.Connection.Url
import QueryGate.Proofs.Number.Digits
import QueryGate.Proofs.Json.Rendered
import QueryGate.Proofs.Value.PlainDecimal
import QueryGate.Proofs.Value.Display
import QueryGate.Proofs.Console.Emoji
import QueryGate.Proofs.Console.Pieces
import QueryGate.Proofs.Console.Shown
import QueryGate.Proofs.Console.Kept
import QueryGate.Proofs.Console.Cells
import QueryGate.Proofs.Console.Report
import QueryGate.Proofs.Statement.FirstSource
import QueryGate.Proofs.Statement.LimitedQuery
import QueryGate.Proofs.Statement.QualifiedQuery
import QueryGate.Proofs.Number.DecimalShape
import QueryGate.Proofs.Json.Numerals
import QueryGate.Proofs.Value.Depth
import QueryGate.Proofs.Json.Ascii
import QueryGate.Proofs.Log.Line
import QueryGate.Proofs.Log.Setup
import QueryGate.Proofs.Log.Script
