import OperandCleanup.Number.Shortest
import OperandCleanup.Number.Hexadecimal
import OperandCleanup.Text.Blank
import OperandCleanup.Text.CodePoint
import OperandCleanup.Text.Lines
import OperandCleanup.Text.NameCharacter
import OperandCleanup.Text.Printable
import OperandCleanup.Text.Quoted
import OperandCleanup.Text.Uppercase
import OperandCleanup.Text.Utf8
import OperandCleanup.Json.Basic
import OperandCleanup.Json.Fault
import OperandCleanup.Json.Token
import OperandCleanup.Json.Reader
import OperandCleanup.Json.Room
import OperandCleanup.Json.Printer
import OperandCleanup.Json.CodePoint
import OperandCleanup.Json.Equality
import OperandCleanup.Json.Literal
import OperandCleanup.Json.Misuse
import OperandCleanup.Validation
import OperandCleanup.Document.Operand
import OperandCleanup.Document.Record
import OperandCleanup.Document.Basic
import OperandCleanup.Document.Loader
import OperandCleanup.Document.CodePoint
import OperandCleanup.Document.Draft
import OperandCleanup.Document.Draft.Editing
import OperandCleanup.Log
import OperandCleanup.Log.FileName
import OperandCleanup.Log.Threshold
import OperandCleanup.Outcome
import OperandCleanup.Outcome.Reported
import OperandCleanup.Transform
import OperandCleanup.Pass.Basic
import OperandCleanup.Pass.StringOperands
import OperandCleanup.Pass.FixedForm
import OperandCleanup.Pass.GeneralRegister
import OperandCleanup.Pass.Synonyms
import OperandCleanup.Pass.ImplicitOperands
import OperandCleanup.Registry
import OperandCleanup.Registry.Default
import OperandCleanup.Registry.Lookup
import OperandCleanup.Document.Draft.Passes
import OperandCleanup.Pipeline
import OperandCleanup.Config
import OperandCleanup.Cleanup
import OperandCleanup.Text.Width
import OperandCleanup.Text.Wrap
import OperandCleanup.Text.PictographNames
import OperandCleanup.Report.Style
import OperandCleanup.Report.Lexeme
import OperandCleanup.Report.Handler
import OperandCleanup.Report.Markup
import OperandCleanup.Report.Console
import OperandCleanup.Report.Table
import OperandCleanup.Report.Summary
import OperandCleanup.Report.RunTable
import OperandCleanup.Diff.Matching
import OperandCleanup.Diff.Segment
import OperandCleanup.Diff.Hunk
import OperandCleanup.Document.Comparison
import OperandCleanup.FileSystem.Path
import OperandCleanup.FileSystem.Basic
import OperandCleanup.FileSystem.Import
import OperandCleanup.Interruption
import OperandCleanup.Config.File
import OperandCleanup.CommandLine.Arguments
import OperandCleanup.CommandLine.Run
import OperandCleanup.Main
import OperandCleanup.Proofs.Scan
import OperandCleanup.Proofs.Stages
import OperandCleanup.Proofs.Run
import OperandCleanup.Proofs.Naming
import OperandCleanup.Proofs.Settled
import OperandCleanup.Proofs.StringForm
import OperandCleanup.Proofs.FixedForm
import OperandCleanup.Proofs.Standard
import OperandCleanup.Proofs.Closure
import OperandCleanup.Proofs.StringOutcome
import OperandCleanup.Proofs.Convergence
import OperandCleanup.Proofs.Acceptance
import OperandCleanup.Proofs.Equality
import OperandCleanup.Proofs.CleanRun
import OperandCleanup.Proofs.Selection
import OperandCleanup.Proofs.Frame
import OperandCleanup.Proofs.Concatenation
import OperandCleanup.Proofs.Number.Digits
import OperandCleanup.Proofs.Number.Rounding
import OperandCleanup.Proofs.Number.Shortest
import OperandCleanup.Proofs.Json.Tokens
import OperandCleanup.Proofs.Json.Room
import OperandCleanup.Proofs.Json.Numbers
import OperandCleanup.Proofs.Json.Characters
import OperandCleanup.Proofs.Json.Members
import OperandCleanup.Proofs.Json.Parts
import OperandCleanup.Proofs.Json.Order
import OperandCleanup.Proofs.Json.RoundTrip
import OperandCleanup.Proofs.Json.Injective
import OperandCleanup.Proofs.Json.Invariant
import OperandCleanup.Proofs.Text.CodePoint
import OperandCleanup.Proofs.Json.CodePoint
import OperandCleanup.Proofs.Loading
import OperandCleanup.Proofs.Carried
import OperandCleanup.Proofs.Draft.Editing
import OperandCleanup.Proofs.Draft.Passes
import OperandCleanup.Proofs.Reload
import OperandCleanup.Proofs.Files
import OperandCleanup.Proofs.Export
import OperandCleanup.Proofs.Idempotence
import OperandCleanup.Proofs.Commutation
import OperandCleanup.Proofs.Accounting
import OperandCleanup.Proofs.FailFast
import OperandCleanup.Proofs.GivenRegistry
import OperandCleanup.Proofs.Related
import OperandCleanup.Proofs.SameData
import OperandCleanup.Proofs.Skeleton
import OperandCleanup.Proofs.Reordering
import OperandCleanup.Proofs.Canonical
import OperandCleanup.Proofs.Surrogates
import OperandCleanup.Proofs.FileFrames
import OperandCleanup.Proofs.Markup
import OperandCleanup.Proofs.ExitCode
import OperandCleanup.Proofs.Registration
import OperandCleanup.Proofs.ErrorReports
import OperandCleanup.Proofs.FirstCorrupt
import OperandCleanup.Proofs.RegisterSplit
import OperandCleanup.Proofs.ChangeCount
import OperandCleanup.Proofs.NamedEntries
import OperandCleanup.Proofs.Fields
import OperandCleanup.Proofs.Grammar
import OperandCleanup.Proofs.Overriding
import OperandCleanup.Proofs.ConfigFiles
import OperandCleanup.Proofs.EventLog
import OperandCleanup.Proofs.Json.Lexemes
import OperandCleanup.Proofs.Lines
import OperandCleanup.Proofs.LineSafety
import OperandCleanup.Proofs.Diff.Matching
import OperandCleanup.Proofs.Diff.Hunks
import OperandCleanup.Proofs.Diff.Patch
import OperandCleanup.Proofs.Comparison
import OperandCleanup.Proofs.Trimming
import OperandCleanup.Proofs.Wrapping
import OperandCleanup.Proofs.ErrorTexts
import OperandCleanup.Proofs.Report.Console
import OperandCleanup.Proofs.Report.Table
import OperandCleanup.Proofs.Report.Escaped
import OperandCleanup.Proofs.Report.LastError
import OperandCleanup.Proofs.Report.Lexeme
import OperandCleanup.Proofs.Report.RunTable
