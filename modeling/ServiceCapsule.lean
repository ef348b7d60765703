import ServiceCapsule.Capsule.Analysis
import ServiceCapsule.Capsule.Discovery
import ServiceCapsule.Capsule.Encoding
import ServiceCapsule.Capsule.Extraction
import ServiceCapsule.Capsule.Loading
import ServiceCapsule.Capsule.Manifest
import ServiceCapsule.Capsule.Metrics
import ServiceCapsule.Capsule.Parsed
import ServiceCapsule.CommandLine.Arguments
import ServiceCapsule.CommandLine.Command
import ServiceCapsule.CommandLine.Run
import ServiceCapsule.Decimal.Dyadic
import ServiceCapsule.Digest.Sha256
import ServiceCapsule.Files.Disk
import ServiceCapsule.Files.Ensured
import ServiceCapsule.Files.Path
import ServiceCapsule.Json.Reader
import ServiceCapsule.Json.Writer
import ServiceCapsule.Main
import ServiceCapsule.Migration.Batch
import ServiceCapsule.Migration.Single
import ServiceCapsule.Package.AdaptersFile
import ServiceCapsule.Package.Admission
import ServiceCapsule.Package.Declarations
import ServiceCapsule.Package.Draft
import ServiceCapsule.Package.ErrorKind
import ServiceCapsule.Package.Generation
import ServiceCapsule.Package.Layout
import ServiceCapsule.Package.Naming
import ServiceCapsule.Package.Overview
import ServiceCapsule.Package.Plan
import ServiceCapsule.Package.ServiceFile
import ServiceCapsule.Package.UtilsFile
import ServiceCapsule.Proofs.Capsule.Dependencies
import ServiceCapsule.Proofs.Capsule.Discovered
import ServiceCapsule.Proofs.Capsule.Documentation
import ServiceCapsule.Proofs.Capsule.Exports
import ServiceCapsule.Proofs.Capsule.IdWords
import ServiceCapsule.Proofs.Capsule.Identity
import ServiceCapsule.Proofs.Capsule.Joined
import ServiceCapsule.Proofs.Capsule.Slugs
import ServiceCapsule.Proofs.Capsule.TopLevel
import ServiceCapsule.Proofs.Files.Canonical
import ServiceCapsule.Proofs.Files.Changed
import ServiceCapsule.Proofs.Files.Directory
import ServiceCapsule.Proofs.Files.Entries
import ServiceCapsule.Proofs.Files.PathOrder
import ServiceCapsule.Proofs.Migration.Confined
import ServiceCapsule.Proofs.Migration.Duplicates
import ServiceCapsule.Proofs.Migration.Groups
import ServiceCapsule.Proofs.Migration.Progress
import ServiceCapsule.Proofs.Migration.Protocol
import ServiceCapsule.Proofs.Migration.Runs
import ServiceCapsule.Proofs.Package.Admitted
import ServiceCapsule.Proofs.Package.Bindings
import ServiceCapsule.Proofs.Package.Carried
import ServiceCapsule.Proofs.Package.Declared
import ServiceCapsule.Proofs.Package.DocComments
import ServiceCapsule.Proofs.Package.Enclosed
import ServiceCapsule.Proofs.Package.Exported
import ServiceCapsule.Proofs.Package.Formatted
import ServiceCapsule.Proofs.Package.Isolated
import ServiceCapsule.Proofs.Package.Lines
import ServiceCapsule.Proofs.Package.Literals
import ServiceCapsule.Proofs.Package.NormalForm
import ServiceCapsule.Proofs.Package.Ordered
import ServiceCapsule.Proofs.Package.Preserved
import ServiceCapsule.Proofs.Package.Quoting
import ServiceCapsule.Proofs.Package.Rebound
import ServiceCapsule.Proofs.Package.References
import ServiceCapsule.Proofs.Package.Remarks
import ServiceCapsule.Proofs.Package.Resolution
import ServiceCapsule.Proofs.Package.Sections
import ServiceCapsule.Proofs.Package.Siblings
import ServiceCapsule.Proofs.Package.Surface
import ServiceCapsule.Proofs.Package.Verbatim
import ServiceCapsule.Proofs.Package.Words
import ServiceCapsule.Proofs.Package.Written
import ServiceCapsule.Proofs.Report.Saving
import ServiceCapsule.Proofs.Text.Block
import ServiceCapsule.Proofs.Text.Search
import ServiceCapsule.Proofs.Text.Ways
import ServiceCapsule.Proofs.Validation.Accounting
import ServiceCapsule.Proofs.Validation.CompilerErrors
import ServiceCapsule.Proofs.Validation.CompilerLines
import ServiceCapsule.Proofs.Validation.Fallback
import ServiceCapsule.Proofs.Validation.Findings
import ServiceCapsule.Proofs.Validation.Generated
import ServiceCapsule.Proofs.Validation.Shape
import ServiceCapsule.Proofs.Validation.SyntaxFaults
import ServiceCapsule.Report.Batch
import ServiceCapsule.Report.Markdown
import ServiceCapsule.Report.Migration
import ServiceCapsule.Report.Saving
import ServiceCapsule.Settings.Basic
import ServiceCapsule.Settings.File
import ServiceCapsule.Text.Basic
import ServiceCapsule.Text.Casing
import ServiceCapsule.Text.Glob
import ServiceCapsule.Text.Lines
import ServiceCapsule.Text.Pattern
import ServiceCapsule.Text.Quoted
import ServiceCapsule.Text.Word
import ServiceCapsule.Time.Hours
import ServiceCapsule.TypeScript.Automaton.Markup.Fifth
import ServiceCapsule.TypeScript.Automaton.Markup.First
import ServiceCapsule.TypeScript.Automaton.Markup.Fourth
import ServiceCapsule.TypeScript.Automaton.Markup.Second
import ServiceCapsule.TypeScript.Automaton.Markup.Third
import ServiceCapsule.TypeScript.Automaton.Phrase
import ServiceCapsule.TypeScript.Automaton.Plain.Fifth
import ServiceCapsule.TypeScript.Automaton.Plain.First
import ServiceCapsule.TypeScript.Automaton.Plain.Fourth
import ServiceCapsule.TypeScript.Automaton.Plain.Second
import ServiceCapsule.TypeScript.Automaton.Plain.Third
import ServiceCapsule.TypeScript.Automaton.Table
import ServiceCapsule.TypeScript.Automaton.Token
import ServiceCapsule.TypeScript.Lexeme
import ServiceCapsule.TypeScript.Program
import ServiceCapsule.TypeScript.Reading.Completion
import ServiceCapsule.TypeScript.Reading.Graph
import ServiceCapsule.TypeScript.Reading.Lookahead
import ServiceCapsule.TypeScript.Reading.Piece
import ServiceCapsule.TypeScript.Reading.Recovery
import ServiceCapsule.TypeScript.Tree
import ServiceCapsule.Validation.Diagnostic
import ServiceCapsule.Validation.Encoding
import ServiceCapsule.Validation.Provider
import ServiceCapsule.Validation.Shape
import ServiceCapsule.Validation.Validator
import ServiceCapsule.Yaml.Node
import ServiceCapsule.Yaml.Number
import ServiceCapsule.Yaml.Property
import ServiceCapsule.Yaml.Scalar
import ServiceCapsule.Yaml.Spot
import ServiceCapsule.Yaml.Token
import ServiceCapsule.Yaml.Typed
import ServiceCapsule.Yaml.Writer
