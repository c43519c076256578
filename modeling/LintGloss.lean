import LintGloss.Adjustment
import LintGloss.Command
import LintGloss.CommandLine
import LintGloss.CommandLine.Parser
import LintGloss.Config
import LintGloss.Config.Decoder
import LintGloss.Config.Fault
import LintGloss.Config.File
import LintGloss.Console
import LintGloss.Decimal.Basic
import LintGloss.Decimal.Binary64
import LintGloss.Detection
import LintGloss.Diagnostic
import LintGloss.Diagnostic.Eslint
import LintGloss.Diagnostic.Pyright
import LintGloss.Diagnostic.Ruff
import LintGloss.Diagnostic.Tsc
import LintGloss.Failure
import LintGloss.Files.Basic
import LintGloss.Files.Change
import LintGloss.Files.Path
import LintGloss.Invocation
import LintGloss.Json.Basic
import LintGloss.Json.Parser
import LintGloss.Json.Printer
import LintGloss.Json.Record
import LintGloss.Json.Token
import LintGloss.Json.Token.Lexer
import LintGloss.Keyed
import LintGloss.Machine
import LintGloss.Main
import LintGloss.Preset
import LintGloss.Report
import LintGloss.RuleTable
import LintGloss.Run
import LintGloss.Session
import LintGloss.Text.Blank
import LintGloss.Text.Digit
import LintGloss.Text.Lines
import LintGloss.Text.Part
import LintGloss.Text.Quoted
import LintGloss.Text.Unprintable
import LintGloss.Text.Utf8
import LintGloss.Toml.Basic
import LintGloss.Toml.Parser
import LintGloss.Toml.Scalar
import LintGloss.Toml.Text
import LintGloss.Tool
import LintGloss.Violation
import LintGloss.Yaml.Basic
import LintGloss.Yaml.Document
import LintGloss.Yaml.Node
import LintGloss.Yaml.Scalar
import LintGloss.Yaml.Spot
import LintGloss.Yaml.Token
import LintGloss.Yaml.Token.Lexer
import LintGloss.Yaml.Token.Scalar
import LintGloss.Yaml.Token.Tag
import LintGloss.Proofs.Text.Front
import LintGloss.Proofs.Diagnostic
import LintGloss.Proofs.Linters
import LintGloss.Proofs.Run
import LintGloss.Proofs.Json.Members
import LintGloss.Proofs.Summary
import LintGloss.Proofs.Report.Body
import LintGloss.Proofs.Report.Accounting
import LintGloss.Proofs.Config
import LintGloss.Proofs.RuleTable.Join
import LintGloss.Proofs.Diagnostic.Independence
import LintGloss.Proofs.Diagnostic.WellFormed
import LintGloss.Proofs.RuleTable.Shadowing
import LintGloss.Proofs.Json.Token
import LintGloss.Proofs.Json.Layout
import LintGloss.Proofs.Json.Compact
import LintGloss.Proofs.Json.RoundTrip
import LintGloss.Proofs.Json.Unique
import LintGloss.Proofs.Command
import LintGloss.Proofs.Document
import LintGloss.Proofs.Document.Answers
import LintGloss.Proofs.Document.Printing
import LintGloss.Proofs.Config.Reading
import LintGloss.Proofs.Command.Agreement
import LintGloss.Proofs.Files.Writing
import LintGloss.Proofs.Command.Sequence
import LintGloss.Proofs.Command.Restriction
import LintGloss.Proofs.Run.Interleaving
import LintGloss.Proofs.Detection
import LintGloss.Proofs.Command.Annotation
import LintGloss.Proofs.Document.ExitCode
import LintGloss.Proofs.Adjustment
import LintGloss.Proofs.Diagnostic.Line
import LintGloss.Proofs.Config.Acceptance
import LintGloss.Proofs.Diagnostic.Format
import LintGloss.Proofs.Run.Classification
import LintGloss.Proofs.Invocation
import LintGloss.Proofs.Files.Erasing
import LintGloss.Proofs.Toml.Tables
import LintGloss.Proofs.Detection.Evidence
import LintGloss.Proofs.Json.Forms
import LintGloss.Proofs.Diagnostic.Shape
import LintGloss.Proofs.Text.Lines
import LintGloss.Proofs.Diagnostic.Linewise
import LintGloss.Proofs.Summary.Counting
import LintGloss.Proofs.CommandLine.Spelling
import LintGloss.Proofs.CommandLine.Request
import LintGloss.Proofs.FirstSeen
