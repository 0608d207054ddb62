import ClassAtlas.BuiltInTypes
import ClassAtlas.CommandLine.Argument
import ClassAtlas.CommandLine.Environment
import ClassAtlas.CommandLine.Invocation
import ClassAtlas.CommandLine.Run
import ClassAtlas.CommandLine.Switch
import ClassAtlas.CommandLine.Usage
import ClassAtlas.Declaration
import ClassAtlas.Disk.Change
import ClassAtlas.Disk.Difference
import ClassAtlas.Disk.Directory
import ClassAtlas.Disk.Walk
import ClassAtlas.Document
import ClassAtlas.Generation
import ClassAtlas.GenerationError
import ClassAtlas.Inspection
import ClassAtlas.Json.Basic
import ClassAtlas.Json.Printer
import ClassAtlas.Logging.Directive
import ClassAtlas.Logging.Filter
import ClassAtlas.Logging.Format
import ClassAtlas.Logging.Journal
import ClassAtlas.Logging.Layout
import ClassAtlas.Logging.Record
import ClassAtlas.Main
import ClassAtlas.Manifest.Batch
import ClassAtlas.Manifest.Discovery
import ClassAtlas.Manifest.Fault
import ClassAtlas.Manifest.Format
import ClassAtlas.Manifest.Reader
import ClassAtlas.Manifest.Scan
import ClassAtlas.Manifest.Tape
import ClassAtlas.NamespaceIndex
import ClassAtlas.Number.Binary64
import ClassAtlas.Number.Shortest
import ClassAtlas.Path.Absolute
import ClassAtlas.Path.Basic
import ClassAtlas.Path.Uri
import ClassAtlas.Pattern.Basic
import ClassAtlas.Pattern.CharSet
import ClassAtlas.Pattern.Reader
import ClassAtlas.ProjectRoot
import ClassAtlas.Relationship
import ClassAtlas.Relationship.Inference
import ClassAtlas.Report
import ClassAtlas.Settings
import ClassAtlas.Text.CaseFolding
import ClassAtlas.Text.CharProperty
import ClassAtlas.Text.CodeRange
import ClassAtlas.Text.Hex
import ClassAtlas.Text.Letters
import ClassAtlas.Text.Marks
import ClassAtlas.Text.Numerals
import ClassAtlas.Text.Quoted
import ClassAtlas.Text.Symbols
import ClassAtlas.Text.Unprintable
import ClassAtlas.Text.Utf8
import ClassAtlas.Proofs.Disk.Below
import ClassAtlas.Proofs.Disk.Relisting
import ClassAtlas.Proofs.Disk.Tree
import ClassAtlas.Proofs.Disk.Walking
import ClassAtlas.Proofs.Document.Outline
import ClassAtlas.Proofs.Document.ReadBack
import ClassAtlas.Proofs.Generation.Loading
import ClassAtlas.Proofs.Manifest.Decoding
import ClassAtlas.Proofs.Manifest.Formats
import ClassAtlas.Proofs.Manifest.Printing
import ClassAtlas.Proofs.Manifest.RoundTrip
import ClassAtlas.Proofs.Manifest.Searching
import ClassAtlas.Proofs.Manifest.Strictness
import ClassAtlas.Proofs.NamespaceIndex.Editing
import ClassAtlas.Proofs.NamespaceIndex.Grouping
import ClassAtlas.Proofs.Path.Steps
import ClassAtlas.Proofs.ProjectRoot.Containment
import ClassAtlas.Proofs.Relationship.Deduplication
import ClassAtlas.Proofs.Relationship.Inference
import ClassAtlas.Proofs.Relationship.Text
import ClassAtlas.Proofs.Report.Batches
import ClassAtlas.Proofs.Report.Reordering
import ClassAtlas.Proofs.Text.Utf8
import ClassAtlas.Proofs.Path.Absolute
import ClassAtlas.Proofs.Report.BuiltIns
import ClassAtlas.Proofs.Report.Silence
import ClassAtlas.Proofs.Document.Blocks
import ClassAtlas.Proofs.Manifest.Delimiting
import ClassAtlas.Proofs.Generation.Repeating
import ClassAtlas.Proofs.CommandLine.Agreement
import ClassAtlas.Proofs.Manifest.Hiding
import ClassAtlas.Proofs.Document.Frame
import ClassAtlas.Proofs.Manifest.Unambiguous
import ClassAtlas.Proofs.Json.Spelling
import ClassAtlas.Proofs.CommandLine.Inspecting
import ClassAtlas.Proofs.Logging.Directives
import ClassAtlas.Proofs.CommandLine.Verbosity
import ClassAtlas.Proofs.Disk.Growing
import ClassAtlas.Proofs.Disk.Replacing
import ClassAtlas.Proofs.Path.Links
import ClassAtlas.Proofs.Path.Nearest
import ClassAtlas.Proofs.ProjectRoot.Nearest
import ClassAtlas.Proofs.Manifest.Sharing
import ClassAtlas.Proofs.Manifest.SharingNumbers
import ClassAtlas.Proofs.Manifest.SharingTexts
import ClassAtlas.Proofs.Manifest.SharingTapes
import ClassAtlas.Proofs.Manifest.Failing
import ClassAtlas.Proofs.Manifest.Placing
import ClassAtlas.Proofs.Relationship.Session
import ClassAtlas.Proofs.Path.Climbing
import ClassAtlas.Proofs.Path.Beside
import ClassAtlas.Proofs.Report.Respelling
import ClassAtlas.Proofs.CommandLine.Spelling
import ClassAtlas.Proofs.CommandLine.Rearranging
import ClassAtlas.Proofs.Path.NormalForm
