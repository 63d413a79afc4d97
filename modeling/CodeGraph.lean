import CodeGraph.Builtin
import CodeGraph.Builtin.Names
import CodeGraph.Cache
import CodeGraph.Cache.Files
import CodeGraph.Cache.Queries
import CodeGraph.Cache.Region
import CodeGraph.Call
import CodeGraph.Call.Lookup
import CodeGraph.Cli
import CodeGraph.Cli.Arguments
import CodeGraph.Cli.Document
import CodeGraph.Cli.Location
import CodeGraph.Cli.Output
import CodeGraph.Cli.Snapshot
import CodeGraph.Containment
import CodeGraph.Definition
import CodeGraph.Digest
import CodeGraph.Extract
import CodeGraph.Extract.Declaration
import CodeGraph.Extract.Imports
import CodeGraph.Extract.Naming
import CodeGraph.Graph
import CodeGraph.Heritage
import CodeGraph.Identifier
import CodeGraph.Import
import CodeGraph.Import.Candidates
import CodeGraph.Import.Resolution
import CodeGraph.Ingest
import CodeGraph.Ingest.Error
import CodeGraph.Ingest.Outcome
import CodeGraph.Ingest.Parsing
import CodeGraph.Ingest.Plan
import CodeGraph.Ingest.Request
import CodeGraph.Ingest.Settings
import CodeGraph.Integrity
import CodeGraph.Inventory
import CodeGraph.Json.Basic
import CodeGraph.Json.Fault
import CodeGraph.Json.Lexeme
import CodeGraph.Json.Printer
import CodeGraph.Json.Reader
import CodeGraph.Kind
import CodeGraph.Language.Availability
import CodeGraph.Language.Basic
import CodeGraph.Language.Queries
import CodeGraph.Links
import CodeGraph.Main
import CodeGraph.Manifest
import CodeGraph.Manifest.Document
import CodeGraph.Manifest.Fault
import CodeGraph.Manifest.Lines
import CodeGraph.Manifest.Project
import CodeGraph.Manifest.Requirement
import CodeGraph.Number.Count
import CodeGraph.Number.Double
import CodeGraph.OrderedMap
import CodeGraph.Path
import CodeGraph.Proofs.Accounting
import CodeGraph.Proofs.Answers
import CodeGraph.Proofs.Authentic
import CodeGraph.Proofs.BareModules
import CodeGraph.Proofs.Basenames
import CodeGraph.Proofs.Cache
import CodeGraph.Proofs.Call
import CodeGraph.Proofs.CallAccounting
import CodeGraph.Proofs.CallEdges
import CodeGraph.Proofs.CallSites
import CodeGraph.Proofs.Callables
import CodeGraph.Proofs.Callers
import CodeGraph.Proofs.Captures
import CodeGraph.Proofs.Clashes
import CodeGraph.Proofs.Climbing
import CodeGraph.Proofs.Containment
import CodeGraph.Proofs.Declarators
import CodeGraph.Proofs.DefaultNames
import CodeGraph.Proofs.Destructuring
import CodeGraph.Proofs.DigestNumbers
import CodeGraph.Proofs.Digests
import CodeGraph.Proofs.Directories
import CodeGraph.Proofs.Distance
import CodeGraph.Proofs.Endings
import CodeGraph.Proofs.Enlargement
import CodeGraph.Proofs.Extraction
import CodeGraph.Proofs.Failures
import CodeGraph.Proofs.FileNodes
import CodeGraph.Proofs.Filtered
import CodeGraph.Proofs.Findings
import CodeGraph.Proofs.Fresh
import CodeGraph.Proofs.Grammar
import CodeGraph.Proofs.Graph
import CodeGraph.Proofs.Guarded
import CodeGraph.Proofs.HarvestedLines
import CodeGraph.Proofs.Heritage
import CodeGraph.Proofs.HeritageEdges
import CodeGraph.Proofs.Histories
import CodeGraph.Proofs.Identifier
import CodeGraph.Proofs.Import
import CodeGraph.Proofs.ImportEdges
import CodeGraph.Proofs.ImportedNames
import CodeGraph.Proofs.Innermost
import CodeGraph.Proofs.Integrity
import CodeGraph.Proofs.Inventory
import CodeGraph.Proofs.Languages
import CodeGraph.Proofs.Lines
import CodeGraph.Proofs.Manifest
import CodeGraph.Proofs.Matching
import CodeGraph.Proofs.Memberships
import CodeGraph.Proofs.Nesting
import CodeGraph.Proofs.Nodes
import CodeGraph.Proofs.Normalization
import CodeGraph.Proofs.Offers
import CodeGraph.Proofs.OrderIndependence
import CodeGraph.Proofs.OrderedMap
import CodeGraph.Proofs.Outcome
import CodeGraph.Proofs.Packages
import CodeGraph.Proofs.Parsing
import CodeGraph.Proofs.Path
import CodeGraph.Proofs.Plan
import CodeGraph.Proofs.Recency
import CodeGraph.Proofs.Reexport
import CodeGraph.Proofs.Registration
import CodeGraph.Proofs.Registry
import CodeGraph.Proofs.RelativeModules
import CodeGraph.Proofs.Reordering
import CodeGraph.Proofs.Resolution
import CodeGraph.Proofs.Run
import CodeGraph.Proofs.Schema
import CodeGraph.Proofs.Scopes
import CodeGraph.Proofs.Sessions
import CodeGraph.Proofs.Sorting
import CodeGraph.Proofs.Sources
import CodeGraph.Proofs.Splitting
import CodeGraph.Proofs.Stages
import CodeGraph.Proofs.Suffixes
import CodeGraph.Proofs.SyntaxTree
import CodeGraph.Proofs.Traits
import CodeGraph.Proofs.Transparency
import CodeGraph.Proofs.Tree
import CodeGraph.Proofs.Trie
import CodeGraph.Proofs.Wildcards
import CodeGraph.Property
import CodeGraph.Reading
import CodeGraph.Reading.Numeral
import CodeGraph.Reading.Records
import CodeGraph.Registry
import CodeGraph.Registry.Trie
import CodeGraph.Report
import CodeGraph.Report.Stored
import CodeGraph.Selection
import CodeGraph.Sorting
import CodeGraph.Terminal.Cells
import CodeGraph.Terminal.Emoji
import CodeGraph.Terminal.EmojiTable
import CodeGraph.Terminal.Markup
import CodeGraph.Terminal.Style
import CodeGraph.Terminal.Table
import CodeGraph.Terminal.WidthTable
import CodeGraph.Text.Base64
import CodeGraph.Text.Basic
import CodeGraph.Text.Blank
import CodeGraph.Text.Case
import CodeGraph.Text.CaseTable
import CodeGraph.Text.CodeText
import CodeGraph.Text.Glob
import CodeGraph.Text.Printable
import CodeGraph.Text.Quoted
import CodeGraph.Text.Utf8
import CodeGraph.Toml.Basic
import CodeGraph.Toml.Fault
import CodeGraph.Toml.Reader
import CodeGraph.Toml.Scalar
import CodeGraph.Tree.Basic
import CodeGraph.Tree.Forest
import CodeGraph.Tree.Pattern
import CodeGraph.Untyped.Decisions
import CodeGraph.Untyped.Functions
import CodeGraph.Untyped.Recency
import CodeGraph.Untyped.Refusal
import CodeGraph.Untyped.Stored
