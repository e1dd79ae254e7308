import TableQuery.Calendar.Date
import TableQuery.Calendar.Format
import TableQuery.Calendar.Iso
import TableQuery.Calendar.Moment
import TableQuery.Column.Cell
import TableQuery.Column.Kind
import TableQuery.Column.Operand
import TableQuery.Column.Operator
import TableQuery.Entity.Config
import TableQuery.Entity.Dictionary
import TableQuery.Entity.Extension
import TableQuery.Entity.Joins
import TableQuery.Entity.Registry
import TableQuery.Fault
import TableQuery.Filter.ColumnClause
import TableQuery.Filter.Draft
import TableQuery.Filter.Node
import TableQuery.Filter.Reader
import TableQuery.Filter.Reduction
import TableQuery.Http.Message
import TableQuery.Http.Route
import TableQuery.Http.Server
import TableQuery.Http.Target
import TableQuery.Json.Basic
import TableQuery.Json.Display
import TableQuery.Json.Parser
import TableQuery.Json.Printer
import TableQuery.Number.Basic
import TableQuery.Number.Decimal
import TableQuery.Number.Double
import TableQuery.Number.Extended
import TableQuery.Number.Numeral
import TableQuery.Number.Rounding
import TableQuery.Number.Shortest
import TableQuery.Proofs.Calendar.Days
import TableQuery.Proofs.Calendar.Order
import TableQuery.Proofs.Calendar.Spellings
import TableQuery.Proofs.Calendar.Strict
import TableQuery.Proofs.Calendar.Written
import TableQuery.Proofs.Column.Cells
import TableQuery.Proofs.Column.Instants
import TableQuery.Proofs.Column.Lists
import TableQuery.Proofs.Column.Numbers
import TableQuery.Proofs.Column.Rendered
import TableQuery.Proofs.Column.Returned
import TableQuery.Proofs.Column.Shown
import TableQuery.Proofs.Column.Written
import TableQuery.Proofs.Entity.Confined
import TableQuery.Proofs.Entity.Dependencies
import TableQuery.Proofs.Entity.Extension
import TableQuery.Proofs.Entity.Joins
import TableQuery.Proofs.Entity.Registry
import TableQuery.Proofs.Entity.Resolution
import TableQuery.Proofs.Entity.Schema
import TableQuery.Proofs.Entity.Stored
import TableQuery.Proofs.Filter.Acceptance
import TableQuery.Proofs.Filter.Agreement
import TableQuery.Proofs.Filter.Alike
import TableQuery.Proofs.Filter.Bound
import TableQuery.Proofs.Filter.Cleaned
import TableQuery.Proofs.Filter.ColumnReduction
import TableQuery.Proofs.Filter.Complaints
import TableQuery.Proofs.Filter.Composed
import TableQuery.Proofs.Filter.Equality
import TableQuery.Proofs.Filter.Faults
import TableQuery.Proofs.Filter.Fixed
import TableQuery.Proofs.Filter.Flags
import TableQuery.Proofs.Filter.Grammar
import TableQuery.Proofs.Filter.Inversion
import TableQuery.Proofs.Filter.LeafReduction
import TableQuery.Proofs.Filter.Lists
import TableQuery.Proofs.Filter.Nested
import TableQuery.Proofs.Filter.NormalForm
import TableQuery.Proofs.Filter.Opposite
import TableQuery.Proofs.Filter.Parts
import TableQuery.Proofs.Filter.Reading
import TableQuery.Proofs.Filter.Reduces
import TableQuery.Proofs.Filter.Relations
import TableQuery.Proofs.Filter.Resolution
import TableQuery.Proofs.Filter.Search
import TableQuery.Proofs.Filter.Sets
import TableQuery.Proofs.Filter.Shortened
import TableQuery.Proofs.Filter.Soundness
import TableQuery.Proofs.Filter.Tests
import TableQuery.Proofs.Filter.Together
import TableQuery.Proofs.Filter.WorkList
import TableQuery.Proofs.Http.Course
import TableQuery.Proofs.Http.Log
import TableQuery.Proofs.Json.Same
import TableQuery.Proofs.Number.Rounding
import TableQuery.Proofs.Outcomes
import TableQuery.Proofs.Request.Acceptance
import TableQuery.Proofs.Request.Aliases
import TableQuery.Proofs.Request.Answers
import TableQuery.Proofs.Request.Complaints
import TableQuery.Proofs.Request.Core
import TableQuery.Proofs.Request.Counts
import TableQuery.Proofs.Request.DevExports
import TableQuery.Proofs.Request.Differences
import TableQuery.Proofs.Request.Distinct
import TableQuery.Proofs.Request.Exports
import TableQuery.Proofs.Request.Grammar
import TableQuery.Proofs.Request.Identifiers
import TableQuery.Proofs.Request.Independence
import TableQuery.Proofs.Request.Isolation
import TableQuery.Proofs.Request.Joins
import TableQuery.Proofs.Request.Lists
import TableQuery.Proofs.Request.Outcome
import TableQuery.Proofs.Request.Pages
import TableQuery.Proofs.Request.Payload
import TableQuery.Proofs.Request.Plan
import TableQuery.Proofs.Request.Refusals
import TableQuery.Proofs.Request.Resolution
import TableQuery.Proofs.Request.Returned
import TableQuery.Proofs.Request.Row
import TableQuery.Proofs.Request.Scope
import TableQuery.Proofs.Request.Selection
import TableQuery.Proofs.Request.Totals
import TableQuery.Proofs.Request.Typed
import TableQuery.Proofs.Request.Written
import TableQuery.Proofs.Sql.Groups
import TableQuery.Proofs.Sql.Like
import TableQuery.Proofs.Sql.Lists
import TableQuery.Proofs.Sql.Members
import TableQuery.Proofs.Sql.Order
import TableQuery.Proofs.Sql.Parts
import TableQuery.Proofs.Sql.Patterns
import TableQuery.Proofs.Sql.Rows
import TableQuery.Proofs.Store.Aliases
import TableQuery.Proofs.Store.Filled
import TableQuery.Proofs.Store.Readings
import TableQuery.Proofs.Store.References
import TableQuery.Proofs.Store.Sample
import TableQuery.Proofs.Store.Scope
import TableQuery.Proofs.Store.Tenant
import TableQuery.Proofs.Store.Typed
import TableQuery.Proofs.Store.Written
import TableQuery.Proofs.Text.Ascii
import TableQuery.Proofs.Text.Folding
import TableQuery.Proofs.Text.Trimmed
import TableQuery.Proofs.View.Debounce
import TableQuery.Proofs.View.Edits
import TableQuery.Proofs.View.Failures
import TableQuery.Proofs.View.Fetches
import TableQuery.Proofs.View.Pages
import TableQuery.Proofs.View.Payloads
import TableQuery.Proofs.View.Requests
import TableQuery.Proofs.View.Reset
import TableQuery.Proofs.View.Restriction
import TableQuery.Proofs.View.Schema
import TableQuery.Proofs.View.Shown
import TableQuery.Proofs.View.Table
import TableQuery.Regex.Basic
import TableQuery.Regex.Reader
import TableQuery.Regex.Search
import TableQuery.Request.Complaint
import TableQuery.Request.Plan
import TableQuery.Request.Request
import TableQuery.Request.Shape
import TableQuery.Service.Engine
import TableQuery.Service.Sample
import TableQuery.Service.Service
import TableQuery.Settings
import TableQuery.Sql.Clause
import TableQuery.Sql.Depth
import TableQuery.Sql.Like
import TableQuery.Sql.Meaning
import TableQuery.Sql.Printer
import TableQuery.Sql.Query
import TableQuery.Sql.Reach
import TableQuery.Sql.Run
import TableQuery.Sql.Value
import TableQuery.Store.Affinity
import TableQuery.Store.Scope
import TableQuery.Store.Table
import TableQuery.Text.Alphanumeric
import TableQuery.Text.Blank
import TableQuery.Text.Case
import TableQuery.Text.CaseTable
import TableQuery.Text.Digit
import TableQuery.Text.Encoding
import TableQuery.Text.Printable
import TableQuery.Text.Quoted
import TableQuery.Text.Surrogate
import TableQuery.View.Schema
import TableQuery.View.Table
import TableQuery.View.TableView
