import EntityScript.Command.Parameter
import EntityScript.Command.Perform
import EntityScript.Command.Usage
import EntityScript.Config.Basic
import EntityScript.Config.Format
import EntityScript.Config.Json
import EntityScript.Config.Yaml
import EntityScript.Files.Error
import EntityScript.Files.Host
import EntityScript.Files.Path
import EntityScript.Files.Workspace
import EntityScript.Filter.Json
import EntityScript.Filter.Kind
import EntityScript.Filter.Rule
import EntityScript.Filter.RuleSet
import EntityScript.Filter.Yaml
import EntityScript.Generation.Expansion
import EntityScript.Generation.Failure
import EntityScript.Generation.Generator
import EntityScript.Generation.Log
import EntityScript.Generation.Run
import EntityScript.Generation.Walk
import EntityScript.Json.Decode
import EntityScript.Json.Draft
import EntityScript.Json.Numeral
import EntityScript.Json.Token
import EntityScript.Json.Value
import EntityScript.Main
import EntityScript.Markup.Event
import EntityScript.Markup.Reference
import EntityScript.Metadata.Json
import EntityScript.Metadata.Label
import EntityScript.Metadata.Naming
import EntityScript.Metadata.Property
import EntityScript.Metadata.Record
import EntityScript.Proofs.Command.Generating
import EntityScript.Proofs.Config.Saving
import EntityScript.Proofs.Filter.Current
import EntityScript.Proofs.Filter.Disjunction
import EntityScript.Proofs.Filter.Editing
import EntityScript.Proofs.Filter.EscapedPatterns
import EntityScript.Proofs.Filter.Parts
import EntityScript.Proofs.Filter.Saving
import EntityScript.Proofs.Generation.Accounting
import EntityScript.Proofs.Generation.Cancellation
import EntityScript.Proofs.Generation.Expanding
import EntityScript.Proofs.Generation.Flattening
import EntityScript.Proofs.Generation.History
import EntityScript.Proofs.Generation.LogLines
import EntityScript.Proofs.Generation.LogProjection
import EntityScript.Proofs.Generation.Noninterference
import EntityScript.Proofs.Generation.OutlinedMatches
import EntityScript.Proofs.Generation.Prefiltering
import EntityScript.Proofs.Generation.ProjectSlugs
import EntityScript.Proofs.Generation.Reading
import EntityScript.Proofs.Generation.Reporting
import EntityScript.Proofs.Generation.RunLaws
import EntityScript.Proofs.Generation.SlugCorrectness
import EntityScript.Proofs.Generation.Steps
import EntityScript.Proofs.Generation.Substitutions
import EntityScript.Proofs.Json.Decoding
import EntityScript.Proofs.Json.Values
import EntityScript.Proofs.Markup.Continuation
import EntityScript.Proofs.Markup.Nesting
import EntityScript.Proofs.Markup.Pieces
import EntityScript.Proofs.Markup.Reading
import EntityScript.Proofs.Markup.Spelling
import EntityScript.Proofs.Markup.Writing
import EntityScript.Proofs.Metadata.Dumps
import EntityScript.Proofs.Metadata.Lookups
import EntityScript.Proofs.Metadata.Written
import EntityScript.Proofs.Regex.Escaping
import EntityScript.Proofs.Template.Concatenation
import EntityScript.Proofs.Template.Parsing
import EntityScript.Proofs.Template.Printing
import EntityScript.Proofs.Template.Scanning
import EntityScript.Proofs.Template.Slicing
import EntityScript.Proofs.Template.SlugGrammar
import EntityScript.Proofs.Template.Splicing
import EntityScript.Proofs.Template.Wrapping
import EntityScript.Proofs.Text.Ascii
import EntityScript.Proofs.Unicode.CaseFolding
import EntityScript.Proofs.Yaml.Decoding
import EntityScript.Proofs.Yaml.Documents
import EntityScript.Proofs.Yaml.Fetching
import EntityScript.Proofs.Yaml.Gaps
import EntityScript.Proofs.Yaml.Nodes
import EntityScript.Proofs.Yaml.Scalar.Integers
import EntityScript.Proofs.Yaml.Scalar.Literal
import EntityScript.Proofs.Yaml.Scalar.Plain
import EntityScript.Proofs.Yaml.Scalar.Quoted
import EntityScript.Proofs.Yaml.Steps
import EntityScript.Proofs.Yaml.Tokens
import EntityScript.Proofs.Yaml.Values
import EntityScript.Regex.Basic
import EntityScript.Regex.Expr
import EntityScript.Regex.Meaning
import EntityScript.Regex.Pattern
import EntityScript.Regex.Property
import EntityScript.Regex.Reader
import EntityScript.Regex.Size
import EntityScript.Template.Document
import EntityScript.Template.Node
import EntityScript.Template.Outline
import EntityScript.Template.Slug
import EntityScript.Text.Blank
import EntityScript.Text.Case
import EntityScript.Text.Case.Table
import EntityScript.Text.Occurrence
import EntityScript.Unicode.Age
import EntityScript.Unicode.Binary
import EntityScript.Unicode.Category
import EntityScript.Unicode.CharSet
import EntityScript.Unicode.Script
import EntityScript.Unicode.Segmentation
import EntityScript.Yaml.Cursor
import EntityScript.Yaml.Decode
import EntityScript.Yaml.Grammar
import EntityScript.Yaml.Layout
import EntityScript.Yaml.Node
import EntityScript.Yaml.Scalar.Block
import EntityScript.Yaml.Scalar.Gap
import EntityScript.Yaml.Scalar.Meaning
import EntityScript.Yaml.Scalar.Plain
import EntityScript.Yaml.Scalar.Quoted
import EntityScript.Yaml.Scalar.Written
import EntityScript.Yaml.Tag
import EntityScript.Yaml.Token
import EntityScript.Yaml.Value
