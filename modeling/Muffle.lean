import Muffle.Command.Arguments
import Muffle.Command.CheckConfig
import Muffle.Command.Filter
import Muffle.Command.Run
import Muffle.Command.Session
import Muffle.Config.Build
import Muffle.Config.Mapping
import Muffle.Config.Options
import Muffle.Config.Store
import Muffle.Console.Layout
import Muffle.Console.Markup
import Muffle.Console.Print
import Muffle.Console.Printer
import Muffle.Console.StyleName
import Muffle.Console.Table
import Muffle.Diagnostic
import Muffle.Directive
import Muffle.Engine.Basic
import Muffle.Engine.Collector
import Muffle.Engine.Stream
import Muffle.Fault
import Muffle.FileTree
import Muffle.FilterConfig
import Muffle.Json.Decoder
import Muffle.Json.Reader
import Muffle.Json.Writer
import Muffle.Log
import Muffle.Main
import Muffle.Notice
import Muffle.Number.Binary64
import Muffle.Number.Decimal
import Muffle.Number.Shortest
import Muffle.Path
import Muffle.Pattern.CharSet
import Muffle.Pattern.Compiler
import Muffle.Pattern.Filter
import Muffle.Pattern.Matcher
import Muffle.Pattern.Node
import Muffle.Pattern.Program
import Muffle.Pattern.Reader
import Muffle.Pattern.Refusal
import Muffle.Pattern.Standard
import Muffle.Pattern.Width
import Muffle.Proofs.Collector.BadPattern
import Muffle.Proofs.Collector.Bookkeeping
import Muffle.Proofs.Collector.FailedAdd
import Muffle.Proofs.Command.ExitCode
import Muffle.Proofs.Command.Filter
import Muffle.Proofs.Command.Printing
import Muffle.Proofs.Command.Session
import Muffle.Proofs.Config.Escape
import Muffle.Proofs.Config.Plain
import Muffle.Proofs.Config.Provenance
import Muffle.Proofs.Config.Reload
import Muffle.Proofs.Config.Relocation
import Muffle.Proofs.Config.SavedFields
import Muffle.Proofs.Config.Spelling
import Muffle.Proofs.Console.Markup
import Muffle.Proofs.Console.Print
import Muffle.Proofs.Engine.Accounting
import Muffle.Proofs.Engine.ArrivalOrder
import Muffle.Proofs.Engine.Call
import Muffle.Proofs.Engine.Deferral
import Muffle.Proofs.Engine.Effect
import Muffle.Proofs.Engine.FailedCall
import Muffle.Proofs.Engine.Interruption
import Muffle.Proofs.Engine.Isolation
import Muffle.Proofs.Engine.Ledger
import Muffle.Proofs.Engine.MoreFilters
import Muffle.Proofs.Engine.Operation
import Muffle.Proofs.Engine.Orderly
import Muffle.Proofs.Engine.RegistrationOrder
import Muffle.Proofs.Engine.Removal
import Muffle.Proofs.Engine.Step
import Muffle.Proofs.Engine.Usage
import Muffle.Proofs.Except
import Muffle.Proofs.Extent
import Muffle.Proofs.Faults
import Muffle.Proofs.FileTree
import Muffle.Proofs.Follows
import Muffle.Proofs.Identical
import Muffle.Proofs.Innermost
import Muffle.Proofs.JsonForm
import Muffle.Proofs.Nesting
import Muffle.Proofs.OrderedKind
import Muffle.Proofs.Path
import Muffle.Proofs.Position
import Muffle.Proofs.Range
import Muffle.Proofs.Registration
import Muffle.Proofs.Sameness
import Muffle.Proofs.SourceRoot
import Muffle.Proofs.Stream.Collection
import Muffle.Proofs.Stream.Composition
import Muffle.Proofs.Stream.Decided
import Muffle.Proofs.Stream.Episode
import Muffle.Proofs.Stream.Faults
import Muffle.Proofs.Stream.Numbering
import Muffle.Proofs.Stream.Refused
import Muffle.Proofs.Stream.Replay
import Muffle.Proofs.Stream.UnusedReports
import Muffle.Proofs.Stream.Verdict
import Muffle.Proofs.Text.KeyCase
import Muffle.Proofs.Text.Utf8
import Muffle.Proofs.Ties
import Muffle.Proofs.Union
import Muffle.Proofs.Yaml.CarriageReturn
import Muffle.Record
import Muffle.Registry
import Muffle.Settings.Basic
import Muffle.Settings.EnvFile
import Muffle.SourceRange
import Muffle.Text.Alphanumeric
import Muffle.Text.Base64
import Muffle.Text.Blank
import Muffle.Text.Case
import Muffle.Text.CaseTable
import Muffle.Text.CellWidth
import Muffle.Text.CharName.Lookup
import Muffle.Text.CharName.Table
import Muffle.Text.Identifier
import Muffle.Text.Integer
import Muffle.Text.KeyCase
import Muffle.Text.Lines
import Muffle.Text.Printable
import Muffle.Text.Quoted
import Muffle.Text.RangeTable
import Muffle.Text.Utf8
import Muffle.Value
import Muffle.Value.Order
import Muffle.Yaml.BlockScalar
import Muffle.Yaml.Codec
import Muffle.Yaml.Node
import Muffle.Yaml.Plain
import Muffle.Yaml.QuotedScalar
import Muffle.Yaml.Reader
import Muffle.Yaml.ScalarStyle
import Muffle.Yaml.Standard
import Muffle.Yaml.Tag
import Muffle.Yaml.Text
import Muffle.Yaml.Timestamp
import Muffle.Yaml.Token
import Muffle.Yaml.Writer
