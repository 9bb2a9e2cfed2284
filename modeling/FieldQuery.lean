import FieldQuery.Calendar.Day
import FieldQuery.Calendar.Instant
import FieldQuery.Calendar.Layout
import FieldQuery.Calendar.Reader
import FieldQuery.Calendar.Writer
import FieldQuery.Command.Arguments
import FieldQuery.Command.Invocation
import FieldQuery.Command.Run
import FieldQuery.Export.Delimited
import FieldQuery.Export.Reading
import FieldQuery.Field.Kind
import FieldQuery.Filter.Basic
import FieldQuery.Filter.Fault
import FieldQuery.Filter.Predicate
import FieldQuery.Filter.Typed
import FieldQuery.Filter.Wire
import FieldQuery.Json.Basic
import FieldQuery.Json.Draft
import FieldQuery.Json.Faithful
import FieldQuery.Json.Numeral
import FieldQuery.Json.Reader
import FieldQuery.Json.Writer
import FieldQuery.Main
import FieldQuery.Number.Basic
import FieldQuery.Number.Decimal
import FieldQuery.Number.Reader
import FieldQuery.Number.Word
import FieldQuery.Page.Window
import FieldQuery.Page.Wire
import FieldQuery.Proofs.Agreement
import FieldQuery.Proofs.Alignment
import FieldQuery.Proofs.Alphabets
import FieldQuery.Proofs.Answers
import FieldQuery.Proofs.Batches
import FieldQuery.Proofs.Bindings
import FieldQuery.Proofs.BoundTexts
import FieldQuery.Proofs.CalendarOrder
import FieldQuery.Proofs.CamelCase
import FieldQuery.Proofs.Capitals
import FieldQuery.Proofs.Chains
import FieldQuery.Proofs.Clauses
import FieldQuery.Proofs.Compilation
import FieldQuery.Proofs.DayBounds
import FieldQuery.Proofs.Descriptors
import FieldQuery.Proofs.Digits
import FieldQuery.Proofs.Dispatch
import FieldQuery.Proofs.Emptiness
import FieldQuery.Proofs.ExactNumbers
import FieldQuery.Proofs.Exports
import FieldQuery.Proofs.FilterWire
import FieldQuery.Proofs.Filtering
import FieldQuery.Proofs.FinalSigma
import FieldQuery.Proofs.Formulas
import FieldQuery.Proofs.Histories
import FieldQuery.Proofs.Identifiers
import FieldQuery.Proofs.InOrder
import FieldQuery.Proofs.IntegerFilters
import FieldQuery.Proofs.Intervals
import FieldQuery.Proofs.Joins
import FieldQuery.Proofs.JsonText
import FieldQuery.Proofs.JsonTokens
import FieldQuery.Proofs.Judging
import FieldQuery.Proofs.KeyOrder
import FieldQuery.Proofs.LetterFolding
import FieldQuery.Proofs.Limits
import FieldQuery.Proofs.LocalTime
import FieldQuery.Proofs.Namesakes
import FieldQuery.Proofs.Nearest
import FieldQuery.Proofs.Nesting
import FieldQuery.Proofs.Numerals
import FieldQuery.Proofs.Opposites
import FieldQuery.Proofs.OrderAgreement
import FieldQuery.Proofs.Orderings
import FieldQuery.Proofs.Paging
import FieldQuery.Proofs.Pairs
import FieldQuery.Proofs.Placeholders
import FieldQuery.Proofs.Planning
import FieldQuery.Proofs.Progress
import FieldQuery.Proofs.Qualifiers
import FieldQuery.Proofs.Quotes
import FieldQuery.Proofs.Reading
import FieldQuery.Proofs.Relations
import FieldQuery.Proofs.Remembering
import FieldQuery.Proofs.RequestText
import FieldQuery.Proofs.Rounding
import FieldQuery.Proofs.RowOrder
import FieldQuery.Proofs.Scope
import FieldQuery.Proofs.ScratchBalance
import FieldQuery.Proofs.Searching
import FieldQuery.Proofs.Shape
import FieldQuery.Proofs.Sharing
import FieldQuery.Proofs.Sorting
import FieldQuery.Proofs.Sources
import FieldQuery.Proofs.Spelling
import FieldQuery.Proofs.StableOrder
import FieldQuery.Proofs.Terms
import FieldQuery.Proofs.TextFilters
import FieldQuery.Proofs.TextOrder
import FieldQuery.Proofs.Transport
import FieldQuery.Proofs.TrivialFilters
import FieldQuery.Proofs.WholeDays
import FieldQuery.Proofs.WholeText
import FieldQuery.Proofs.Wildcards
import FieldQuery.Proofs.Workers
import FieldQuery.Record.Arranging
import FieldQuery.Record.Batch
import FieldQuery.Record.Calls
import FieldQuery.Record.Engine
import FieldQuery.Record.Judgement
import FieldQuery.Record.Order
import FieldQuery.Record.Route
import FieldQuery.Record.Schema
import FieldQuery.Record.Scratch
import FieldQuery.Record.Search
import FieldQuery.Record.Selection
import FieldQuery.Record.Value
import FieldQuery.Record.Workers
import FieldQuery.Repository.Basic
import FieldQuery.Request.Basic
import FieldQuery.Request.Parameter
import FieldQuery.Request.Transport
import FieldQuery.Resolution.Cache
import FieldQuery.Resolution.Sharing
import FieldQuery.Settings.Basic
import FieldQuery.Settings.File
import FieldQuery.Statement.ColumnTest
import FieldQuery.Statement.Condition
import FieldQuery.Statement.Formula
import FieldQuery.Statement.Fragment
import FieldQuery.Statement.Identifier
import FieldQuery.Statement.Lexeme
import FieldQuery.Statement.Meaning
import FieldQuery.Statement.Ordering
import FieldQuery.Statement.Plan
import FieldQuery.Statement.Planner
import FieldQuery.Statement.Planning
import FieldQuery.Statement.Qualifier
import FieldQuery.Statement.Value
import FieldQuery.Table.Catalog
import FieldQuery.Table.CatalogWire
import FieldQuery.Table.Chain
import FieldQuery.Table.Schema
import FieldQuery.Table.Visiting
import FieldQuery.Text.Base64
import FieldQuery.Text.Blank
import FieldQuery.Text.Letter
import FieldQuery.Text.LetterTable
import FieldQuery.Text.Name
import FieldQuery.Text.Percent
import FieldQuery.Text.PrintTable
import FieldQuery.Text.Quoted
import FieldQuery.Text.Run
import FieldQuery.Text.Search
import FieldQuery.Text.Utf8
