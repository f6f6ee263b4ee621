import ClassDiagram.Builder
import ClassDiagram.Cardinality
import ClassDiagram.Class
import ClassDiagram.CommandLine.Options
import ClassDiagram.CommandLine.Run
import ClassDiagram.CommandLine.Usage
import ClassDiagram.Console.ColorNames
import ClassDiagram.Console.Emoji
import ClassDiagram.Console.EmojiNames.DToG
import ClassDiagram.Console.EmojiNames.FromS
import ClassDiagram.Console.EmojiNames.HToM
import ClassDiagram.Console.EmojiNames.NToR
import ClassDiagram.Console.EmojiNames.UpToC
import ClassDiagram.Console.Literal
import ClassDiagram.Console.Markup
import ClassDiagram.Console.Report
import ClassDiagram.Console.Style
import ClassDiagram.Console.Table
import ClassDiagram.Console.Wrap
import ClassDiagram.DataType
import ClassDiagram.DiagramFile
import ClassDiagram.Document
import ClassDiagram.Fault
import ClassDiagram.Files.Path
import ClassDiagram.Files.Tree
import ClassDiagram.Json.Binary64
import ClassDiagram.Json.Reader
import ClassDiagram.Json.Value
import ClassDiagram.Json.Writer
import ClassDiagram.Line
import ClassDiagram.Line.Header
import ClassDiagram.Line.Member
import ClassDiagram.Main
import ClassDiagram.OrderedMap
import ClassDiagram.Relation
import ClassDiagram.Schema.Assignment
import ClassDiagram.Schema.Check
import ClassDiagram.Schema.Issue
import ClassDiagram.Schema.Records
import ClassDiagram.Settings
import ClassDiagram.Settings.Files
import ClassDiagram.Settings.Storage
import ClassDiagram.Text.Basic
import ClassDiagram.Text.Blank
import ClassDiagram.Text.Case
import ClassDiagram.Text.CaseSpans
import ClassDiagram.Text.CasedRanges
import ClassDiagram.Text.CodeRanges
import ClassDiagram.Text.Digit
import ClassDiagram.Text.Newlines
import ClassDiagram.Text.PrintableRanges
import ClassDiagram.Text.Quoted
import ClassDiagram.Text.Utf8
import ClassDiagram.Text.Width
import ClassDiagram.Text.WidthRanges
import ClassDiagram.Text.Word
import ClassDiagram.Text.WordRanges
import ClassDiagram.Proofs.Relations
import ClassDiagram.Proofs.Steps
import ClassDiagram.Proofs.Names
import ClassDiagram.Proofs.Persistence
import ClassDiagram.Proofs.Text.UpperCase
import ClassDiagram.Proofs.Text.Runs
import ClassDiagram.Proofs.Text.Lines
import ClassDiagram.Proofs.Text.Brackets
import ClassDiagram.Proofs.Ledger
import ClassDiagram.Proofs.Accounts
import ClassDiagram.Proofs.Headers
import ClassDiagram.Proofs.Provenance
import ClassDiagram.Proofs.Brackets
import ClassDiagram.Proofs.RelationFields
import ClassDiagram.Proofs.Written.Lines
import ClassDiagram.Proofs.Written.Documents
import ClassDiagram.Proofs.Refusals
import ClassDiagram.Proofs.Sessions
import ClassDiagram.Proofs.Blocks
import ClassDiagram.Proofs.Locality
import ClassDiagram.Proofs.Naming
import ClassDiagram.Proofs.Endings
import ClassDiagram.Proofs.DroppedBlocks
import ClassDiagram.Proofs.Text.Utf8
import ClassDiagram.Proofs.Text.Newlines
import ClassDiagram.Proofs.Files.Diagrams
import ClassDiagram.Proofs.Files.Paths
import ClassDiagram.Proofs.Files.Trees
import ClassDiagram.Proofs.Json.RoundTrip
import ClassDiagram.Proofs.Schema.Records
import ClassDiagram.Proofs.Console.Messages
import ClassDiagram.Proofs.Console.Warnings
import ClassDiagram.Proofs.Console.Tables
import ClassDiagram.Proofs.CommandLine.Arguments
import ClassDiagram.Proofs.CommandLine.Runs
import ClassDiagram.Proofs.CommandLine.Tables
import ClassDiagram.Proofs.Text.Words
import ClassDiagram.Proofs.Layouts
import ClassDiagram.Proofs.RelationSequences
import ClassDiagram.Proofs.Text.Fields
import ClassDiagram.Proofs.Written.RelationLines
import ClassDiagram.Proofs.Text.Pattern
import ClassDiagram.Proofs.Members
import ClassDiagram.Proofs.Settings.Storage
import ClassDiagram.Proofs.Settings.Markers
import ClassDiagram.Proofs.Insertions
import ClassDiagram.Proofs.IgnoredLines
import ClassDiagram.Proofs.Comments
import ClassDiagram.Proofs.HeldMembers
import ClassDiagram.Proofs.Typing
import ClassDiagram.Proofs.Headings
import ClassDiagram.Proofs.Keywords
