import QueryDesk.Agent.Backend
import QueryDesk.Agent.Basic
import QueryDesk.Agent.Options
import QueryDesk.Agent.Rehearsal
import QueryDesk.Calendar.Date
import QueryDesk.Calendar.DateText
import QueryDesk.Calendar.Moment
import QueryDesk.CommandLine.Arguments
import QueryDesk.CommandLine.Environment
import QueryDesk.CommandLine.Memory
import QueryDesk.CommandLine.Run
import QueryDesk.Decimal.Fixed
import QueryDesk.Decimal.Layout
import QueryDesk.Decimal.Read
import QueryDesk.Decimal.Shortest
import QueryDesk.Decimal.Width
import QueryDesk.Draft
import QueryDesk.Engine.ClickHouse
import QueryDesk.Engine.Health
import QueryDesk.Engine.Hive.Output
import QueryDesk.Engine.Hive.Service
import QueryDesk.Engine.Jobs
import QueryDesk.Engine.Kind
import QueryDesk.Engine.Presto.Page
import QueryDesk.Engine.Presto.Service
import QueryDesk.Engine.Registry
import QueryDesk.Engine.ResultSet
import QueryDesk.Engine.Service
import QueryDesk.Engine.Spark.Session
import QueryDesk.Engine.Spark.Statement
import QueryDesk.Engine.Statement
import QueryDesk.Fault
import QueryDesk.Intent
import QueryDesk.Json.Basic
import QueryDesk.Json.Decode
import QueryDesk.Json.Parser
import QueryDesk.Json.Printer
import QueryDesk.Json.Raw
import QueryDesk.Json.Text
import QueryDesk.Json.Unread
import QueryDesk.Main
import QueryDesk.Model.Chat
import QueryDesk.Model.Client
import QueryDesk.Model.Request
import QueryDesk.Outcome
import QueryDesk.Query.Basic
import QueryDesk.Query.Codec
import QueryDesk.Report.Chart
import QueryDesk.Report.Csv
import QueryDesk.Report.Envelope
import QueryDesk.Report.Export
import QueryDesk.Report.Page
import QueryDesk.Report.Payload
import QueryDesk.Report.Table
import QueryDesk.Settings.Basic
import QueryDesk.Settings.Coercion
import QueryDesk.Settings.Layers
import QueryDesk.Source
import QueryDesk.Sql.Check
import QueryDesk.Sql.Generator
import QueryDesk.Sql.Identifier
import QueryDesk.Sql.Predicate
import QueryDesk.Sql.Statement
import QueryDesk.Task.Basic
import QueryDesk.Task.Cluster
import QueryDesk.Task.Cost
import QueryDesk.Task.Identity
import QueryDesk.Task.Status
import QueryDesk.Text.Blank
import QueryDesk.Text.Case
import QueryDesk.Text.CaseData
import QueryDesk.Text.DecimalDigit
import QueryDesk.Text.Path
import QueryDesk.Text.Quoted
import QueryDesk.Text.Search
import QueryDesk.Toml.Parser
import QueryDesk.Toml.Scalar
import QueryDesk.Toml.Table
import QueryDesk.Toml.Text
import QueryDesk.Understanding.Classifier
import QueryDesk.Understanding.Compiler
import QueryDesk.Understanding.Prompt
import QueryDesk.Understanding.Reply
import QueryDesk.Understanding.Rules
import QueryDesk.Understanding.Vocabulary
import QueryDesk.Web.Address
import QueryDesk.Web.Exchange
import QueryDesk.Web.Message
import QueryDesk.Web.Wire
import QueryDesk.Proofs.Calendar.DayNumber
import QueryDesk.Proofs.Demands
import QueryDesk.Proofs.Fallible
import QueryDesk.Proofs.Sql.Balance
import QueryDesk.Proofs.Sql.Generation
import QueryDesk.Proofs.Sql.Containment
import QueryDesk.Proofs.Sql.OneSelect
import QueryDesk.Proofs.Sql.Reader
import QueryDesk.Proofs.Sql.WellFormed
import QueryDesk.Proofs.Sql.WhereClause
import QueryDesk.Proofs.Understanding.Compilation
import QueryDesk.Proofs.Understanding.Influence
import QueryDesk.Proofs.Report.CsvReader
import QueryDesk.Proofs.Report.Paging
import QueryDesk.Proofs.Report.Alignment
import QueryDesk.Proofs.Json.Grammar
import QueryDesk.Proofs.Json.Members
import QueryDesk.Proofs.Json.Reading
import QueryDesk.Proofs.Understanding.Extraction
import QueryDesk.Proofs.Understanding.Wrapping
import QueryDesk.Proofs.Understanding.Nesting
import QueryDesk.Proofs.Report.CsvExport
import QueryDesk.Proofs.Agent.Logged
import QueryDesk.Proofs.Agent.Answering
import QueryDesk.Proofs.Agent.Lifecycle
import QueryDesk.Proofs.Query.Stored
import QueryDesk.Proofs.Report.Shapes
import QueryDesk.Proofs.Engine.Runs
import QueryDesk.Proofs.Engine.Pages
import QueryDesk.Proofs.Engine.Waiting
import QueryDesk.Proofs.Engine.Interleaving
import QueryDesk.Proofs.Engine.Handles
import QueryDesk.Proofs.Engine.Sessions
import QueryDesk.Proofs.Engine.Opening
import QueryDesk.Proofs.Agent.Batches
import QueryDesk.Proofs.Understanding.Invariants
import QueryDesk.Proofs.Report.Answers
import QueryDesk.Proofs.Task.CostBounds
import QueryDesk.Proofs.Task.Statuses
import QueryDesk.Proofs.Engine.Output
import QueryDesk.Proofs.Engine.Attribution
import QueryDesk.Proofs.Model.Retries
import QueryDesk.Proofs.Calendar.TextOrder
import QueryDesk.Proofs.Sql.WindowDays
import QueryDesk.Proofs.Engine.Submission
import QueryDesk.Proofs.Sql.SelectList
import QueryDesk.Proofs.Understanding.BestIntent
import QueryDesk.Proofs.Understanding.CalendarEnds
import QueryDesk.Proofs.Sql.Findings
import QueryDesk.Proofs.Sql.DialectNames
import QueryDesk.Proofs.Report.Drawing
