import DeprecatedUse.Analysis
import DeprecatedUse.BuildInfo
import DeprecatedUse.Clock
import DeprecatedUse.CommandLine.Check
import DeprecatedUse.CommandLine.Listing
import DeprecatedUse.CommandLine.Options
import DeprecatedUse.CommandLine.Request
import DeprecatedUse.CommandLine.Run
import DeprecatedUse.Diagnostic
import DeprecatedUse.Editor.Capabilities
import DeprecatedUse.Editor.Client
import DeprecatedUse.Editor.Message
import DeprecatedUse.Editor.Server
import DeprecatedUse.Editor.Session
import DeprecatedUse.FileTree
import DeprecatedUse.Fingerprint
import DeprecatedUse.Glob
import DeprecatedUse.Index
import DeprecatedUse.Java.Access
import DeprecatedUse.Java.Bracket
import DeprecatedUse.Java.Declaration
import DeprecatedUse.Java.Deprecation
import DeprecatedUse.Java.Doc
import DeprecatedUse.Java.Lexer
import DeprecatedUse.Java.Outline
import DeprecatedUse.Java.Replacement
import DeprecatedUse.Java.Scopes
import DeprecatedUse.Java.SourceUnit
import DeprecatedUse.Java.Token
import DeprecatedUse.Java.TypeNames
import DeprecatedUse.Java.WrittenType
import DeprecatedUse.Json.Basic
import DeprecatedUse.Json.Parser
import DeprecatedUse.Json.Printer
import DeprecatedUse.Json.Shape
import DeprecatedUse.Main
import DeprecatedUse.Path
import DeprecatedUse.Pipeline
import DeprecatedUse.Position
import DeprecatedUse.Program.Basic
import DeprecatedUse.Program.Escape
import DeprecatedUse.Program.Floating
import DeprecatedUse.Program.Format
import DeprecatedUse.Program.Launcher
import DeprecatedUse.Program.Quoted
import DeprecatedUse.Program.Shell.Arithmetic
import DeprecatedUse.Program.Shell.Builtin
import DeprecatedUse.Program.Shell.Builtin.Alias
import DeprecatedUse.Program.Shell.Builtin.Basic
import DeprecatedUse.Program.Shell.Builtin.Job
import DeprecatedUse.Program.Shell.Builtin.Option
import DeprecatedUse.Program.Shell.Builtin.Rights
import DeprecatedUse.Program.Shell.Builtin.Signal
import DeprecatedUse.Program.Shell.Builtin.Variable
import DeprecatedUse.Program.Shell.Field
import DeprecatedUse.Program.Shell.Pattern
import DeprecatedUse.Program.Shell.Reader
import DeprecatedUse.Program.Shell.Run
import DeprecatedUse.Program.Shell.Script
import DeprecatedUse.Program.Shell.State
import DeprecatedUse.Program.Shell.Test
import DeprecatedUse.Program.Standard
import DeprecatedUse.Proofs.Analysis.DeprecatedUses
import DeprecatedUse.Proofs.Analysis.Faults
import DeprecatedUse.Proofs.CommandLine.Accounting
import DeprecatedUse.Proofs.CommandLine.Jobs
import DeprecatedUse.Proofs.CommandLine.Projects
import DeprecatedUse.Proofs.CommandLine.Scheduling
import DeprecatedUse.Proofs.Diagnostic.Ordering
import DeprecatedUse.Proofs.Editor.Addressing
import DeprecatedUse.Proofs.Editor.Interleaving
import DeprecatedUse.Proofs.Editor.Mirroring
import DeprecatedUse.Proofs.Editor.Saving
import DeprecatedUse.Proofs.Editor.SourceFiles
import DeprecatedUse.Proofs.Editor.View
import DeprecatedUse.Proofs.Glob.Pieces
import DeprecatedUse.Proofs.Index.Agreement
import DeprecatedUse.Proofs.Index.Ambiguity
import DeprecatedUse.Proofs.Index.Changes
import DeprecatedUse.Proofs.Index.Inheritance
import DeprecatedUse.Proofs.Index.Listing
import DeprecatedUse.Proofs.Index.Provenance
import DeprecatedUse.Proofs.Index.Replacement
import DeprecatedUse.Proofs.Index.Resolution
import DeprecatedUse.Proofs.Java.Attachment
import DeprecatedUse.Proofs.Java.Commented.Backwards
import DeprecatedUse.Proofs.Java.Commented.Headers
import DeprecatedUse.Proofs.Java.Commented.Outlines
import DeprecatedUse.Proofs.Java.Commented.Splits
import DeprecatedUse.Proofs.Java.Commented.Texts
import DeprecatedUse.Proofs.Java.Commented.Uses
import DeprecatedUse.Proofs.Java.Comparisons.Chains
import DeprecatedUse.Proofs.Java.Comparisons.Conditions
import DeprecatedUse.Proofs.Java.Comparisons.Doubles
import DeprecatedUse.Proofs.Java.Conservation
import DeprecatedUse.Proofs.Java.Cursor.Accesses
import DeprecatedUse.Proofs.Java.Cursor.Basic
import DeprecatedUse.Proofs.Java.Cursor.Groups
import DeprecatedUse.Proofs.Java.Cursor.Headers
import DeprecatedUse.Proofs.Java.Cursor.Lexer
import DeprecatedUse.Proofs.Java.Cursor.Locals
import DeprecatedUse.Proofs.Java.Cursor.Members
import DeprecatedUse.Proofs.Java.Cursor.Receivers
import DeprecatedUse.Proofs.Java.Cursor.Types
import DeprecatedUse.Proofs.Java.Decoration
import DeprecatedUse.Proofs.Java.DocComments
import DeprecatedUse.Proofs.Java.Enclosure
import DeprecatedUse.Proofs.Java.Extension
import DeprecatedUse.Proofs.Java.Fields.Declarations
import DeprecatedUse.Proofs.Java.Fields.Types
import DeprecatedUse.Proofs.Java.Frames.Classes
import DeprecatedUse.Proofs.Java.Frames.Constructs
import DeprecatedUse.Proofs.Java.Frames.Creations
import DeprecatedUse.Proofs.Java.Frames.Ends
import DeprecatedUse.Proofs.Java.Frames.Mirrors
import DeprecatedUse.Proofs.Java.Frames.Stacks
import DeprecatedUse.Proofs.Java.Hints
import DeprecatedUse.Proofs.Java.Layout
import DeprecatedUse.Proofs.Java.Lexemes
import DeprecatedUse.Proofs.Java.Literals
import DeprecatedUse.Proofs.Java.MemberNames
import DeprecatedUse.Proofs.Java.Nesting
import DeprecatedUse.Proofs.Java.Passing
import DeprecatedUse.Proofs.Java.Placement
import DeprecatedUse.Proofs.Java.Reading
import DeprecatedUse.Proofs.Java.Relabelling.Outlines
import DeprecatedUse.Proofs.Java.Relabelling.Tokens
import DeprecatedUse.Proofs.Java.Relabelling.Uses
import DeprecatedUse.Proofs.Java.Reprinting
import DeprecatedUse.Proofs.Java.Searching
import DeprecatedUse.Proofs.Java.Steps
import DeprecatedUse.Proofs.Java.Tiling
import DeprecatedUse.Proofs.Java.TypeNames
import DeprecatedUse.Proofs.Java.TypeOrigins
import DeprecatedUse.Proofs.Java.TypeTable
import DeprecatedUse.Proofs.Java.Uses
import DeprecatedUse.Proofs.Java.Variables.Readers
import DeprecatedUse.Proofs.Java.Variables.Types
import DeprecatedUse.Proofs.Json.Records
import DeprecatedUse.Proofs.Pipeline.History
import DeprecatedUse.Proofs.Report.Totals
import DeprecatedUse.Proofs.Report.Verdicts
import DeprecatedUse.Proofs.Search.Generations
import DeprecatedUse.Proofs.Text.Splitting
import DeprecatedUse.Proofs.Text.Utf8
import DeprecatedUse.Proofs.Toml.Documents
import DeprecatedUse.Proofs.Uri.Authorities
import DeprecatedUse.Proofs.Uri.Foreign
import DeprecatedUse.Proofs.Uri.Paths
import DeprecatedUse.Proofs.Uri.Percent
import DeprecatedUse.Proofs.Uri.Reading
import DeprecatedUse.Proofs.Wire.ReadBack
import DeprecatedUse.Proofs.Wire.SavedSettings
import DeprecatedUse.Proofs.Workspace.Discovery
import DeprecatedUse.Proofs.Workspace.Dotted
import DeprecatedUse.Proofs.Workspace.Files
import DeprecatedUse.Proofs.Workspace.Folders
import DeprecatedUse.Proofs.Workspace.Spellings
import DeprecatedUse.Report.Basic
import DeprecatedUse.Report.Console
import DeprecatedUse.Report.Markdown
import DeprecatedUse.Resolver
import DeprecatedUse.Search
import DeprecatedUse.Settings
import DeprecatedUse.Sink
import DeprecatedUse.Symbol
import DeprecatedUse.Table
import DeprecatedUse.Text.Alphanumeric
import DeprecatedUse.Text.Case
import DeprecatedUse.Text.Character
import DeprecatedUse.Text.CombiningClass
import DeprecatedUse.Text.Composed
import DeprecatedUse.Text.Decomposition
import DeprecatedUse.Text.Lines
import DeprecatedUse.Text.Mark
import DeprecatedUse.Text.Style
import DeprecatedUse.Text.Utf8
import DeprecatedUse.Text.Word
import DeprecatedUse.Text.Written
import DeprecatedUse.Toml.Basic
import DeprecatedUse.Toml.Parser
import DeprecatedUse.Toml.Scanner
import DeprecatedUse.Toml.Tree
import DeprecatedUse.Uri.Basic
import DeprecatedUse.Uri.Domain
import DeprecatedUse.Uri.Domain.Direction
import DeprecatedUse.Uri.Domain.Joining
import DeprecatedUse.Uri.Domain.Mapping
import DeprecatedUse.Uri.Domain.Punycode
import DeprecatedUse.Uri.Host
import DeprecatedUse.Uri.Parser
import DeprecatedUse.Uri.Percent
import DeprecatedUse.Wire.Diagnostic
import DeprecatedUse.Wire.Report
import DeprecatedUse.Wire.Settings
import DeprecatedUse.Wire.Symbol
import DeprecatedUse.Workspace
