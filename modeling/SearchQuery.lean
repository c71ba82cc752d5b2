import SearchQuery.Calendar.Date
import SearchQuery.Calendar.Iso
import SearchQuery.Calendar.Moment
import SearchQuery.Command.Compile
import SearchQuery.Command.Help
import SearchQuery.Command.InitConfig
import SearchQuery.Command.Option
import SearchQuery.Command.Run
import SearchQuery.Command.Selectors
import SearchQuery.Command.Session
import SearchQuery.Command.Start
import SearchQuery.Command.Suggestion
import SearchQuery.Command.Usage
import SearchQuery.Compile.Compiler
import SearchQuery.Compile.Registry
import SearchQuery.Console.Action
import SearchQuery.Console.Cluster
import SearchQuery.Console.ColorTable
import SearchQuery.Console.Grid
import SearchQuery.Console.Line
import SearchQuery.Console.Literal
import SearchQuery.Console.Markup
import SearchQuery.Console.Plain
import SearchQuery.Console.Print
import SearchQuery.Console.Style
import SearchQuery.Console.Tree
import SearchQuery.Console.Width
import SearchQuery.Console.WidthTable
import SearchQuery.Console.Wrap
import SearchQuery.Document.Json
import SearchQuery.Document.Value
import SearchQuery.Files.Path
import SearchQuery.Files.Store
import SearchQuery.Main
import SearchQuery.Number.Binary64
import SearchQuery.Number.Numeral
import SearchQuery.Number.Shortest
import SearchQuery.Proofs.Command.Ending
import SearchQuery.Proofs.Compile.Clauses
import SearchQuery.Proofs.Compile.Complaints
import SearchQuery.Proofs.Compile.Dispatch
import SearchQuery.Proofs.Compile.Join
import SearchQuery.Proofs.Compile.Negation
import SearchQuery.Proofs.Compile.Typed
import SearchQuery.Proofs.Compile.WellFormed
import SearchQuery.Proofs.Console.Escape
import SearchQuery.Proofs.Console.Layout
import SearchQuery.Proofs.Console.Nesting
import SearchQuery.Proofs.Files.Written
import SearchQuery.Proofs.Outcome
import SearchQuery.Proofs.Query.Shown
import SearchQuery.Proofs.Reading.Values
import SearchQuery.Proofs.Segment.Fault
import SearchQuery.Proofs.Segment.Gaps
import SearchQuery.Proofs.Segment.Grammar
import SearchQuery.Proofs.Segment.Place
import SearchQuery.Proofs.Segment.Quotation
import SearchQuery.Proofs.Segment.Scan
import SearchQuery.Proofs.Segment.Split
import SearchQuery.Proofs.Selector.Conflict
import SearchQuery.Proofs.Selector.Overlap
import SearchQuery.Proofs.Selector.Spelling
import SearchQuery.Proofs.Settings.Reload
import SearchQuery.Proofs.Settings.Usable
import SearchQuery.Proofs.Text.Fold
import SearchQuery.Proofs.Text.FoldImages
import SearchQuery.Proofs.Text.Trim
import SearchQuery.Proofs.Toml.Lines
import SearchQuery.Proofs.Toml.Tables
import SearchQuery.Proofs.Toml.Values
import SearchQuery.Query.Basic
import SearchQuery.Query.Document
import SearchQuery.Query.Draft
import SearchQuery.Query.Field
import SearchQuery.Query.Literal
import SearchQuery.Query.Tree
import SearchQuery.Reading.Bound
import SearchQuery.Reading.Fault
import SearchQuery.Reading.FieldReader
import SearchQuery.Reading.Range
import SearchQuery.Segment.Basic
import SearchQuery.Segment.Piece
import SearchQuery.Selector.Rule
import SearchQuery.Settings.Basic
import SearchQuery.Settings.Document
import SearchQuery.Settings.Example
import SearchQuery.Settings.File
import SearchQuery.Text.Basic
import SearchQuery.Text.Blank
import SearchQuery.Text.CaseRun
import SearchQuery.Text.CharacterName
import SearchQuery.Text.Digit
import SearchQuery.Text.Fold
import SearchQuery.Text.FoldTable
import SearchQuery.Text.Lower
import SearchQuery.Text.LowerTable
import SearchQuery.Text.NameTable
import SearchQuery.Text.Quoted
import SearchQuery.Text.UnprintableTable
import SearchQuery.Text.Word
import SearchQuery.Text.WordTable
import SearchQuery.Toml.Fault
import SearchQuery.Toml.Reader
import SearchQuery.Toml.Scalar
import SearchQuery.Toml.Table
import SearchQuery.Toml.Text
import SearchQuery.Toml.Writer
import SearchQuery.Proofs.Reading.Division
import SearchQuery.Proofs.Number.Literal
import SearchQuery.Proofs.Reading.Numbers
import SearchQuery.Proofs.Reading.Durations
import SearchQuery.Proofs.Calendar.Week
import SearchQuery.Proofs.Calendar.Iso
import SearchQuery.Proofs.Reading.Dates
import SearchQuery.Proofs.Settings.InForce
import SearchQuery.Proofs.Segment.Column
import SearchQuery.Proofs.Settings.Refusal
import SearchQuery.Proofs.Settings.Sections
import SearchQuery.Proofs.Console.Reading
import SearchQuery.Proofs.Query.Labels
import SearchQuery.Proofs.Query.Decoding
import SearchQuery.Proofs.Query.Drafts
