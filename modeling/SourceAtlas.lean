import SourceAtlas.Assistant.Advisor
import SourceAtlas.Assistant.Client
import SourceAtlas.Assistant.Service
import SourceAtlas.Assistant.Settings
import SourceAtlas.Assistant.Wire
import SourceAtlas.Assoc
import SourceAtlas.Capability
import SourceAtlas.Catalog.Basic
import SourceAtlas.Catalog.Dependency
import SourceAtlas.Catalog.Relevance
import SourceAtlas.Catalog.Summary
import SourceAtlas.Catalog.Topic
import SourceAtlas.Command.Arguments
import SourceAtlas.Command.Basic
import SourceAtlas.Command.Run
import SourceAtlas.Path
import SourceAtlas.FileTree
import SourceAtlas.Glob
import SourceAtlas.Hash.Sha256
import SourceAtlas.Index.Draft
import SourceAtlas.Index.Scan
import SourceAtlas.Index.Walk
import SourceAtlas.Json.Display
import SourceAtlas.Json.Printer
import SourceAtlas.Json.Reader
import SourceAtlas.Json.Value
import SourceAtlas.Language.Bash
import SourceAtlas.Language.Basic
import SourceAtlas.Language.C
import SourceAtlas.Language.CSharp
import SourceAtlas.Language.Conventions
import SourceAtlas.Language.Cpp
import SourceAtlas.Language.Css
import SourceAtlas.Language.Elixir
import SourceAtlas.Language.Go
import SourceAtlas.Language.Haskell
import SourceAtlas.Language.Html
import SourceAtlas.Language.Java
import SourceAtlas.Language.JavaScript
import SourceAtlas.Language.Known
import SourceAtlas.Language.Kotlin
import SourceAtlas.Language.Lua
import SourceAtlas.Language.Parameters
import SourceAtlas.Language.Php
import SourceAtlas.Language.Python
import SourceAtlas.Language.Registry
import SourceAtlas.Language.Ruby
import SourceAtlas.Language.Rust
import SourceAtlas.Language.Scala
import SourceAtlas.Language.Sql
import SourceAtlas.Language.Swift
import SourceAtlas.Main
import SourceAtlas.Number.Binary64
import SourceAtlas.Number.Decimal
import SourceAtlas.Number.Numeral
import SourceAtlas.Number.Ranking
import SourceAtlas.Outline.Declaration
import SourceAtlas.Outline.Export
import SourceAtlas.Outline.Import
import SourceAtlas.Pattern.Parser
import SourceAtlas.Pattern.Search
import SourceAtlas.Pattern.Syntax
import SourceAtlas.Project
import SourceAtlas.Reference
import SourceAtlas.Schema.Checked
import SourceAtlas.Settings
import SourceAtlas.Snapshot
import SourceAtlas.Structure.Grammar
import SourceAtlas.Structure.Match
import SourceAtlas.Symbol
import SourceAtlas.Terminal.Markup
import SourceAtlas.Terminal.Table
import SourceAtlas.Terminal.Wrap
import SourceAtlas.Text.Blank
import SourceAtlas.Text.Case
import SourceAtlas.Text.Cells
import SourceAtlas.Text.Cursor
import SourceAtlas.Text.Cut
import SourceAtlas.Text.Ranges
import SourceAtlas.Text.Folding
import SourceAtlas.Text.Utf8
import SourceAtlas.Text.Printable
import SourceAtlas.Text.Quoted
import SourceAtlas.Text.Word
import SourceAtlas.Yaml.Node
import SourceAtlas.Yaml.Scalar
import SourceAtlas.Yaml.Spot
import SourceAtlas.Yaml.Token
import SourceAtlas.Yaml.Value
import SourceAtlas.Proofs.Assoc
import SourceAtlas.Proofs.FileTree.Naming
import SourceAtlas.Proofs.FileTree.Places
import SourceAtlas.Proofs.FileTree.Store
import SourceAtlas.Proofs.FileTree.Walk
import SourceAtlas.Proofs.Index.Files
import SourceAtlas.Proofs.Index.Growth
import SourceAtlas.Proofs.Index.Invariant
import SourceAtlas.Proofs.Index.Pieces
import SourceAtlas.Proofs.Index.Refresh
import SourceAtlas.Proofs.Index.Texts
import SourceAtlas.Proofs.Json.Doubles
import SourceAtlas.Proofs.Json.Numbers
import SourceAtlas.Proofs.Json.RoundTrip
import SourceAtlas.Proofs.Json.StoredText
import SourceAtlas.Proofs.Json.Strings
import SourceAtlas.Proofs.Project.Cache
import SourceAtlas.Proofs.Project.History
import SourceAtlas.Proofs.Schema.Checked
import SourceAtlas.Proofs.Snapshot.RoundTrip
import SourceAtlas.Proofs.Text.Case
import SourceAtlas.Proofs.Text.Joining
import SourceAtlas.Proofs.Index.Changes
import SourceAtlas.Proofs.FileTree.Alone
import SourceAtlas.Proofs.Index.Decomposition
import SourceAtlas.Proofs.Catalog.Advice
import SourceAtlas.Proofs.Catalog.Degradation
import SourceAtlas.Proofs.Catalog.Dependents
import SourceAtlas.Proofs.Catalog.Lookups
import SourceAtlas.Proofs.Assistant.Replies
import SourceAtlas.Proofs.Assistant.Calls
import SourceAtlas.Proofs.Assistant.Answers
import SourceAtlas.Proofs.Assistant.Requests
import SourceAtlas.Proofs.Index.Fallback
import SourceAtlas.Proofs.Project.Coherence
import SourceAtlas.Proofs.Language.Registration
import SourceAtlas.Proofs.Index.Walk
import SourceAtlas.Proofs.FileTree.Links
import SourceAtlas.Proofs.Path.Parts
import SourceAtlas.Proofs.Path.Steps
import SourceAtlas.Proofs.Dependency.Relative
import SourceAtlas.Proofs.Dependency.Places
import SourceAtlas.Proofs.Catalog.Imports
import SourceAtlas.Proofs.Index.FirstMatches
import SourceAtlas.Proofs.Text.Blanks
import SourceAtlas.Proofs.Language.Splitting
import SourceAtlas.Proofs.Language.Angles
import SourceAtlas.Proofs.Language.PythonParameters
import SourceAtlas.Proofs.Outline.Exports
import SourceAtlas.Proofs.Outline.ExportForms
import SourceAtlas.Proofs.Outline.LineReports
import SourceAtlas.Proofs.Catalog.Attribution
import SourceAtlas.Proofs.Project.Context
import SourceAtlas.Proofs.Catalog.Rankings
import SourceAtlas.Proofs.Catalog.Topics
import SourceAtlas.Proofs.Text.Words
import SourceAtlas.Proofs.Assistant.Embedding
