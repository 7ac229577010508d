import RamlClient.Api.Build
import RamlClient.Api.Model
import RamlClient.Api.Section
import RamlClient.Api.TypeExpression
import RamlClient.Calendar
import RamlClient.Chain
import RamlClient.Client.Draft
import RamlClient.Client.Inheritance
import RamlClient.Client.Models
import RamlClient.Client.OperationName
import RamlClient.Client.Operations
import RamlClient.Client.Profile
import RamlClient.Client.Runtime
import RamlClient.Client.Saving
import RamlClient.Client.Session
import RamlClient.Client.Target
import RamlClient.Client.TreeHost
import RamlClient.Command.Arguments
import RamlClient.Command.Option
import RamlClient.Command.Run
import RamlClient.Decimal.Binary
import RamlClient.Decimal.Notation
import RamlClient.Decimal.Rounded
import RamlClient.Decimal.Shortest
import RamlClient.Defect
import RamlClient.Document
import RamlClient.Failure
import RamlClient.Files.Fault
import RamlClient.Files.Path
import RamlClient.Files.Resolve
import RamlClient.Files.Tree
import RamlClient.Go.Identifier
import RamlClient.Go.Literal
import RamlClient.Go.Package
import RamlClient.Go.Render
import RamlClient.Go.TypeText
import RamlClient.Log
import RamlClient.Main
import RamlClient.Proofs.AcceptedArguments
import RamlClient.Proofs.Acronyms
import RamlClient.Proofs.ArgumentNames
import RamlClient.Proofs.BodyIdentifiers
import RamlClient.Proofs.Building
import RamlClient.Proofs.Capitals
import RamlClient.Proofs.ClientDraft
import RamlClient.Proofs.CodeReader
import RamlClient.Proofs.Declarations
import RamlClient.Proofs.Descriptors
import RamlClient.Proofs.DistinctKeys
import RamlClient.Proofs.DocumentDefects
import RamlClient.Proofs.DraftFailures
import RamlClient.Proofs.Drafting
import RamlClient.Proofs.Edits
import RamlClient.Proofs.Endpoints
import RamlClient.Proofs.FieldTags
import RamlClient.Proofs.FileTrees
import RamlClient.Proofs.Flattening
import RamlClient.Proofs.FormatStrings
import RamlClient.Proofs.Generation
import RamlClient.Proofs.Growth
import RamlClient.Proofs.HeldTypes
import RamlClient.Proofs.Identifiers
import RamlClient.Proofs.ImportSets
import RamlClient.Proofs.InOrder
import RamlClient.Proofs.Inclusions
import RamlClient.Proofs.Independence
import RamlClient.Proofs.InheritanceCycles
import RamlClient.Proofs.InheritanceGraph
import RamlClient.Proofs.InlineBodies
import RamlClient.Proofs.Interleavings
import RamlClient.Proofs.Lineage
import RamlClient.Proofs.Mentions
import RamlClient.Proofs.OperationNames
import RamlClient.Proofs.OperationStructs
import RamlClient.Proofs.Operations
import RamlClient.Proofs.Optionality
import RamlClient.Proofs.Outputs
import RamlClient.Proofs.PackageClause
import RamlClient.Proofs.PackageNames
import RamlClient.Proofs.PackageView
import RamlClient.Proofs.PathExpressions
import RamlClient.Proofs.Payloads
import RamlClient.Proofs.QueryKeys
import RamlClient.Proofs.Redeclarations
import RamlClient.Proofs.References
import RamlClient.Proofs.Registry
import RamlClient.Proofs.Rendering
import RamlClient.Proofs.Reports
import RamlClient.Proofs.Resolving
import RamlClient.Proofs.ResourceTree
import RamlClient.Proofs.Running
import RamlClient.Proofs.RuntimeNames
import RamlClient.Proofs.Saving
import RamlClient.Proofs.SavingPrefix
import RamlClient.Proofs.Steps
import RamlClient.Proofs.StringLiterals
import RamlClient.Proofs.StructDrafts
import RamlClient.Proofs.StructFields
import RamlClient.Proofs.TextTrees
import RamlClient.Proofs.TraitReferences
import RamlClient.Proofs.Transcripts
import RamlClient.Proofs.Trees
import RamlClient.Proofs.TypeAgreement
import RamlClient.Proofs.TypeClassification
import RamlClient.Proofs.TypeGrammar
import RamlClient.Proofs.TypeOrder
import RamlClient.Proofs.TypeReading
import RamlClient.Proofs.TypeTexts
import RamlClient.Proofs.UriPieces
import RamlClient.Proofs.ValidIdentifiers
import RamlClient.Proofs.Visits
import RamlClient.Proofs.WellFormed
import RamlClient.Proofs.WireNames
import RamlClient.Proofs.Writing
import RamlClient.Shell.Arithmetic
import RamlClient.Shell.Control
import RamlClient.Shell.Evaluation
import RamlClient.Shell.Expansion
import RamlClient.Shell.Lookup
import RamlClient.Shell.Reader
import RamlClient.Shell.Redirecting
import RamlClient.Shell.Runner
import RamlClient.Shell.Script
import RamlClient.Shell.Signal
import RamlClient.Shell.Start
import RamlClient.Shell.State
import RamlClient.Shell.Variables
import RamlClient.Slots
import RamlClient.Text.Blank
import RamlClient.Text.ByteText
import RamlClient.Text.CodeRange
import RamlClient.Text.Digit
import RamlClient.Text.Glob
import RamlClient.Text.Half
import RamlClient.Text.Line
import RamlClient.Text.NameChar
import RamlClient.Text.Numeral
import RamlClient.Text.Printable
import RamlClient.Text.Quoted
import RamlClient.Text.Regex
import RamlClient.Text.Segment
import RamlClient.Text.ShellWord
import RamlClient.Text.Template
import RamlClient.Text.Uppercase
import RamlClient.Text.Word
import RamlClient.Tools.Condition
import RamlClient.Tools.Editing.Editor
import RamlClient.Tools.Editing.Script
import RamlClient.Tools.Editing.Tool
import RamlClient.Tools.Environment
import RamlClient.Tools.Expression
import RamlClient.Tools.Lines
import RamlClient.Tools.Listing
import RamlClient.Tools.Making
import RamlClient.Tools.Moving
import RamlClient.Tools.Options
import RamlClient.Tools.Places
import RamlClient.Tools.Plain
import RamlClient.Tools.Printing
import RamlClient.Tools.Quotation
import RamlClient.Tools.Run
import RamlClient.Tools.Searching
import RamlClient.Url
import RamlClient.Value
import RamlClient.Yaml.Cursor
import RamlClient.Yaml.Loading
import RamlClient.Yaml.Node
import RamlClient.Yaml.Outline
import RamlClient.Yaml.Scalar
import RamlClient.Yaml.ScalarValue
import RamlClient.Yaml.Tag
import RamlClient.Yaml.Timestamp
import RamlClient.Yaml.Token
