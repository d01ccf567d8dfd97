import VersionedApi.CommandLine.Arguments
import VersionedApi.CommandLine.Execution
import VersionedApi.CommandLine.Summary
import VersionedApi.Description.Fields
import VersionedApi.Description.Loading
import VersionedApi.Description.Shape
import VersionedApi.Description.Text
import VersionedApi.Description.TypeReference
import VersionedApi.Document.Edit
import VersionedApi.Document.Format
import VersionedApi.Document.Json
import VersionedApi.Document.Node
import VersionedApi.Document.Yaml
import VersionedApi.Files.PathText
import VersionedApi.Files.System
import VersionedApi.Files.Tree
import VersionedApi.Generation.DocumentFile
import VersionedApi.Generation.Failure
import VersionedApi.Generation.Generator
import VersionedApi.Generation.Reporter
import VersionedApi.Json.Flaw
import VersionedApi.Json.Scalar
import VersionedApi.Json.Tree
import VersionedApi.Json.View
import VersionedApi.Main
import VersionedApi.Model.Name
import VersionedApi.Model.Paths
import VersionedApi.Model.Resources
import VersionedApi.Model.Types
import VersionedApi.Model.Version
import VersionedApi.OpenApi.Conventions
import VersionedApi.OpenApi.Operations
import VersionedApi.OpenApi.PathItems
import VersionedApi.OpenApi.Problem
import VersionedApi.OpenApi.Reference
import VersionedApi.OpenApi.Schemas
import VersionedApi.OpenApi.Specification
import VersionedApi.Order.Distinct
import VersionedApi.Settings
import VersionedApi.Source.Fault
import VersionedApi.Source.View
import VersionedApi.Text.Alphanumeric
import VersionedApi.Text.Decimal
import VersionedApi.Text.Diagnostic
import VersionedApi.Text.Invisible
import VersionedApi.Text.Letter
import VersionedApi.Text.Lowercase
import VersionedApi.Text.Runs
import VersionedApi.Text.SmallText
import VersionedApi.Text.Uppercase
import VersionedApi.Text.Words
import VersionedApi.Yaml.Characters
import VersionedApi.Yaml.Composition
import VersionedApi.Yaml.Cursor
import VersionedApi.Yaml.Node
import VersionedApi.Yaml.Plain
import VersionedApi.Yaml.Properties
import VersionedApi.Yaml.Scalars
import VersionedApi.Yaml.Token
import VersionedApi.Yaml.TokenStream
import VersionedApi.Yaml.View
import VersionedApi.Proofs.Description.Arena
import VersionedApi.Proofs.Description.Denotation
import VersionedApi.Proofs.Description.Agreement
import VersionedApi.Proofs.Description.Faithful
import VersionedApi.Proofs.Document.Fields
import VersionedApi.Proofs.Text.Casing
import VersionedApi.Proofs.Description.WellFormed
import VersionedApi.Proofs.OpenApi.Problems
import VersionedApi.Proofs.Text.ByteOrder
import VersionedApi.Proofs.OpenApi.DistinctPaths
import VersionedApi.Proofs.OpenApi.Links
import VersionedApi.Proofs.OpenApi.ProblemCount
import VersionedApi.Proofs.Generation.Accounting
import VersionedApi.Proofs.Description.Acceptance
import VersionedApi.Proofs.Model.SimpleChains
import VersionedApi.Proofs.OpenApi.SchemaKeys
import VersionedApi.Proofs.Files.Listing
import VersionedApi.Proofs.Files.Ways
import VersionedApi.Proofs.Generation.Kept
import VersionedApi.Proofs.Generation.Standard
import VersionedApi.Proofs.Generation.Writes
import VersionedApi.Proofs.Files.Attempts
import VersionedApi.Proofs.Files.Parents
import VersionedApi.Proofs.Generation.Confined
import VersionedApi.Proofs.Generation.Repeated
import VersionedApi.Proofs.OpenApi.Operations
import VersionedApi.Proofs.OpenApi.PathTemplates
import VersionedApi.Proofs.Files.Refusals
import VersionedApi.Proofs.Model.Spelling
import VersionedApi.Proofs.Generation.Obstacles
import VersionedApi.Proofs.Generation.Stopped
import VersionedApi.Proofs.CommandLine.Foretelling
import VersionedApi.Proofs.Description.Interning
import VersionedApi.Proofs.Description.Representation
import VersionedApi.Proofs.OpenApi.LocatorOrder
import VersionedApi.Proofs.OpenApi.Termination
import VersionedApi.Proofs.Model.AbsolutePaths
import VersionedApi.Proofs.OpenApi.TypeDenotation
import VersionedApi.Proofs.OpenApi.SharedVerbs
import VersionedApi.Proofs.OpenApi.Properties
import VersionedApi.Proofs.Document.Reopening
import VersionedApi.Proofs.OpenApi.OperationShape
import VersionedApi.Proofs.OpenApi.ParameterPlaces
import VersionedApi.Proofs.OpenApi.ParameterNames
import VersionedApi.Proofs.Document.Extension
import VersionedApi.Proofs.Description.Respelling
import VersionedApi.Proofs.OpenApi.Casings
import VersionedApi.Proofs.Document.ReadingBack
import VersionedApi.Proofs.Model.SharedStacks
