import QualityGate.Analysis.Convention
import QualityGate.Analysis.Lines
import QualityGate.Analysis.TextScan
import QualityGate.Check.Basic
import QualityGate.Check.Context
import QualityGate.Check.Dependency
import QualityGate.Check.Docstring
import QualityGate.Check.Finding
import QualityGate.Check.Length
import QualityGate.Check.Name
import QualityGate.Check.Naming
import QualityGate.Check.Result
import QualityGate.Check.ToolRun
import QualityGate.Check.Trace
import QualityGate.CommandLine.Arguments
import QualityGate.CommandLine.Colour
import QualityGate.CommandLine.Help
import QualityGate.CommandLine.Run
import QualityGate.CommandLine.Snapshot
import QualityGate.CommandLine.Word
import QualityGate.Config.Basic
import QualityGate.Config.Decode
import QualityGate.Config.Discovery
import QualityGate.Config.Field
import QualityGate.Decimal.Binary64
import QualityGate.Decimal.Shortest
import QualityGate.Disk.Basic
import QualityGate.Disk.Resolve
import QualityGate.Disk.Walk
import QualityGate.Failure
import QualityGate.Gate.Chain
import QualityGate.Gate.Pipeline
import QualityGate.Json.Printer
import QualityGate.Json.Reader
import QualityGate.Json.Value
import QualityGate.Path
import QualityGate.Python.CasePattern
import QualityGate.Python.CompoundStatement
import QualityGate.Python.Cursor
import QualityGate.Python.Expression
import QualityGate.Python.Layout
import QualityGate.Python.Lexer
import QualityGate.Python.Literal
import QualityGate.Python.Module
import QualityGate.Python.Parameter
import QualityGate.Python.Reader
import QualityGate.Python.Sequence
import QualityGate.Python.SimpleStatement
import QualityGate.Python.Source
import QualityGate.Python.Target
import QualityGate.Python.Token
import QualityGate.Python.Tree
import QualityGate.Report.Details
import QualityGate.Report.Document
import QualityGate.Report.Save
import QualityGate.Report.Style
import QualityGate.Report.Summary
import QualityGate.Text.Blank
import QualityGate.Text.Casing
import QualityGate.Text.CasingTable
import QualityGate.Text.Cut
import QualityGate.Text.Digit
import QualityGate.Text.DigitTable
import QualityGate.Text.Identifier
import QualityGate.Text.IdentifierTable
import QualityGate.Text.PrintableTable
import QualityGate.Text.Quoted
import QualityGate.Text.Ranges
import QualityGate.Text.Utf8
import QualityGate.Toml.Document
import QualityGate.Toml.Draft
import QualityGate.Toml.Number
import QualityGate.Toml.Reader
import QualityGate.Toml.Text
import QualityGate.Toml.Value
import QualityGate.Tooling.Coverage
import QualityGate.Tooling.Requirement
import QualityGate.Tooling.Tool
import QualityGate.Main
import QualityGate.Proofs.Path.Order
import QualityGate.Proofs.Disk.Reach
import QualityGate.Proofs.Disk.Resolution
import QualityGate.Proofs.Path.Below
import QualityGate.Proofs.Path.Relative
import QualityGate.Proofs.Text.Cut
import QualityGate.Proofs.Disk.Walk
import QualityGate.Proofs.Disk.Agreement
import QualityGate.Proofs.Gate.Pipeline
import QualityGate.Proofs.Gate.Chain
import QualityGate.Proofs.Check.Analyzer
import QualityGate.Proofs.Disk.Spelling
import QualityGate.Proofs.Check.Independence
import QualityGate.Proofs.Json.Grammar
import QualityGate.Proofs.Json.Numeral
import QualityGate.Proofs.Json.Quote
import QualityGate.Proofs.Json.RoundTrip
import QualityGate.Proofs.Json.Schema
import QualityGate.Proofs.Decimal.Overflow
import QualityGate.Proofs.Decimal.Exact
import QualityGate.Proofs.Report.Document
import QualityGate.Proofs.Report.Coverage
import QualityGate.Proofs.Report.Schema
import QualityGate.Proofs.Report.Summary
import QualityGate.Proofs.Report.Findings
import QualityGate.Proofs.Report.Selection
import QualityGate.Proofs.Report.Streams
import QualityGate.Proofs.CommandLine.Verdict
import QualityGate.Proofs.Check.Builtin
import QualityGate.Proofs.Gate.Calls
import QualityGate.Proofs.Gate.Order
import QualityGate.Proofs.Disk.Write
import QualityGate.Proofs.CommandLine.Presentation
import QualityGate.Proofs.Config.Decode
import QualityGate.Proofs.Python.Order
import QualityGate.Proofs.Check.FunctionLength
import QualityGate.Proofs.Check.SyntaxError
import QualityGate.Proofs.Check.LineCount
import QualityGate.Proofs.Disk.LinkFree
import QualityGate.Proofs.Text.Casing
import QualityGate.Proofs.Text.Occurrence
import QualityGate.Proofs.Text.Trim
import QualityGate.Proofs.Tooling.Coverage
import QualityGate.Proofs.Tooling.Outdated
import QualityGate.Proofs.Tooling.Requirement
import QualityGate.Proofs.Analysis.Convention
import QualityGate.Proofs.Analysis.WholeName
import QualityGate.Proofs.Analysis.Comment
import QualityGate.Proofs.Python.Position
import QualityGate.Proofs.Check.DeclaredNames
import QualityGate.Proofs.Check.Docstring
import QualityGate.Proofs.Check.FileLength
import QualityGate.Proofs.Check.Dependency
import QualityGate.Proofs.Config.CommaList
import QualityGate.Proofs.Config.Options
import QualityGate.Proofs.Config.Spelling
import QualityGate.Proofs.Path.Ancestors
import QualityGate.Proofs.Disk.Confinement
import QualityGate.Proofs.Config.Discovery
import QualityGate.Proofs.Report.Unsorted
import QualityGate.Proofs.Gate.SourceDirs
import QualityGate.Proofs.Report.Escape
import QualityGate.Proofs.Check.Shown
import QualityGate.Proofs.Python.Walk
