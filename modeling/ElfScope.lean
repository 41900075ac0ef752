import ElfScope.ByteOrder
import ElfScope.Bytes
import ElfScope.CommandLine.Grammar
import ElfScope.CommandLine.Task
import ElfScope.CommandLine.Tool
import ElfScope.Configuration
import ElfScope.FileHeader
import ElfScope.Files
import ElfScope.Image
import ElfScope.Inspection
import ElfScope.Log.Event
import ElfScope.Log.Filter
import ElfScope.Main
import ElfScope.Pattern.Basic
import ElfScope.Pattern.Bracket
import ElfScope.Pattern.Group
import ElfScope.Pattern.Lexeme
import ElfScope.Pattern.Usable
import ElfScope.Proofs.Bytes
import ElfScope.Proofs.CommandLine.Grammar
import ElfScope.Proofs.CommandLine.Tool
import ElfScope.Proofs.CommandLine.Writing
import ElfScope.Proofs.FileHeader
import ElfScope.Proofs.FileHeader.Outcome
import ElfScope.Proofs.Files
import ElfScope.Proofs.Inspection
import ElfScope.Proofs.Inspection.Faithful
import ElfScope.Proofs.Inspection.Footprint
import ElfScope.Proofs.Inspection.Frame
import ElfScope.Proofs.Inspection.Growth
import ElfScope.Proofs.Inspection.LabelMode
import ElfScope.Proofs.Inspection.Message
import ElfScope.Proofs.Inspection.Names
import ElfScope.Proofs.Inspection.Records
import ElfScope.Proofs.Inspection.RoundTrip
import ElfScope.Proofs.Machine.Header
import ElfScope.Proofs.Machine.Inspection
import ElfScope.Proofs.Machine.Operations
import ElfScope.Proofs.Machine.Section
import ElfScope.Proofs.Machine.Symbol
import ElfScope.Proofs.Number
import ElfScope.Proofs.Reading
import ElfScope.Proofs.Report
import ElfScope.Proofs.Report.Alignment
import ElfScope.Proofs.Report.Header
import ElfScope.Proofs.Report.Rows
import ElfScope.Proofs.Report.Section
import ElfScope.Proofs.Report.Symbol
import ElfScope.Proofs.Report.Writing
import ElfScope.Proofs.Section
import ElfScope.Proofs.Section.Flag
import ElfScope.Proofs.Section.Label
import ElfScope.Proofs.Section.Outcome
import ElfScope.Proofs.Settings
import ElfScope.Proofs.Settings.Precedence
import ElfScope.Proofs.Sink
import ElfScope.Proofs.StringTable
import ElfScope.Proofs.Symbol
import ElfScope.Proofs.Symbol.Label
import ElfScope.Proofs.Symbol.Outcome
import ElfScope.Proofs.Symbol.Place
import ElfScope.Proofs.Text.Column
import ElfScope.Proofs.Text.Phrase
import ElfScope.Proofs.Tool.Diagnostics
import ElfScope.Proofs.Tool.Failure
import ElfScope.Proofs.Tool.Isolation
import ElfScope.Proofs.Tool.Run
import ElfScope.Proofs.Tool.Views
import ElfScope.Proofs.Utf8
import ElfScope.Proofs.Utf8.WellFormed
import ElfScope.Proofs.Workspace.Root
import ElfScope.Proofs.Workspace.Table
import ElfScope.Proofs.Workspace.Testing
import ElfScope.Report.Basic
import ElfScope.Report.Header
import ElfScope.Report.Writing
import ElfScope.Section.Basic
import ElfScope.Section.Label
import ElfScope.Section.Table
import ElfScope.Settings
import ElfScope.Sink
import ElfScope.StringTable
import ElfScope.Symbol.Basic
import ElfScope.Symbol.Label
import ElfScope.Symbol.Table
import ElfScope.Text.Character
import ElfScope.Text.Column
import ElfScope.Text.Quoted
import ElfScope.Text.Utf8
import ElfScope.Toml.Document
import ElfScope.Toml.Entries
import ElfScope.Toml.Lexeme
import ElfScope.Toml.Scalar
import ElfScope.Toml.Value
import ElfScope.Tool.Run
import ElfScope.Traced
import ElfScope.Workspace.Root
import ElfScope.Workspace.Task
