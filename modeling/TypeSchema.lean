import TypeSchema.CommandLine.Arguments
import TypeSchema.CommandLine.Run
import TypeSchema.Dict
import TypeSchema.Digest.Sha256
import TypeSchema.Error
import TypeSchema.Files.Disk
import TypeSchema.Files.Glob
import TypeSchema.Files.Path
import TypeSchema.Graph.Basic
import TypeSchema.Graph.Builder
import TypeSchema.Graph.Format
import TypeSchema.Graph.Merge
import TypeSchema.Graph.Printer
import TypeSchema.Graph.Validity
import TypeSchema.Json.Basic
import TypeSchema.Json.Decoder
import TypeSchema.Json.Draft
import TypeSchema.Json.Printer
import TypeSchema.Literal.Basic
import TypeSchema.Literal.Enumeration
import TypeSchema.Literal.Reader
import TypeSchema.Log
import TypeSchema.Main
import TypeSchema.Number.Double
import TypeSchema.Number.Reading
import TypeSchema.Number.Shortest
import TypeSchema.Number.Text
import TypeSchema.OpenApi.Assembly
import TypeSchema.OpenApi.Document
import TypeSchema.OpenApi.Format
import TypeSchema.OpenApi.Method
import TypeSchema.OpenApi.Shape
import TypeSchema.Pattern.Folding
import TypeSchema.Pattern.NamePattern
import TypeSchema.Pattern.Property
import TypeSchema.Pattern.Reader
import TypeSchema.Pattern.Regex
import TypeSchema.Proofs.Annotations
import TypeSchema.Proofs.Building.Calls
import TypeSchema.Proofs.Building.Contract
import TypeSchema.Proofs.Building.Descent
import TypeSchema.Proofs.Building.Operations
import TypeSchema.Proofs.Building.Rules
import TypeSchema.Proofs.Building.Runs
import TypeSchema.Proofs.Building.Steps
import TypeSchema.Proofs.Building.Wrappers
import TypeSchema.Proofs.Dict
import TypeSchema.Proofs.Json.Keys
import TypeSchema.Proofs.Names.Distinct
import TypeSchema.Proofs.Names.Registry
import TypeSchema.Proofs.Objects.Places
import TypeSchema.Proofs.Objects.Required
import TypeSchema.Proofs.References.Closure
import TypeSchema.Proofs.References.Documents
import TypeSchema.Proofs.References.Occurrence
import TypeSchema.Proofs.Termination.Chains
import TypeSchema.Proofs.Termination.Depth
import TypeSchema.Proofs.Termination.Edges
import TypeSchema.Proofs.Termination.Names
import TypeSchema.Schema.Annotations
import TypeSchema.Schema.Building
import TypeSchema.Schema.Catalog
import TypeSchema.Schema.Context
import TypeSchema.Schema.Definition
import TypeSchema.Schema.Document
import TypeSchema.Schema.Intersection
import TypeSchema.Schema.Journal
import TypeSchema.Schema.Modules
import TypeSchema.Schema.Naming
import TypeSchema.Schema.Object
import TypeSchema.Schema.Options
import TypeSchema.Schema.Plain
import TypeSchema.Schema.Resolution
import TypeSchema.Schema.Union
import TypeSchema.Text.Basic
import TypeSchema.Text.Categories
import TypeSchema.Text.Quoting
import TypeSchema.Text.Ranges
import TypeSchema.Text.Tables
import TypeSchema.Proofs.Context.Integrity
import TypeSchema.Proofs.Building.Keywords
import TypeSchema.Proofs.Termination.Endless
import TypeSchema.Proofs.References.Bare
import TypeSchema.Proofs.References.Neighbours
import TypeSchema.Proofs.Names.Roots
import TypeSchema.Proofs.Names.Unique
import TypeSchema.Proofs.Graph.Ranges
import TypeSchema.Proofs.Context.Isolation
import TypeSchema.Proofs.Graph.Failures
import TypeSchema.Proofs.Graph.Interchange
import TypeSchema.Proofs.OpenApi.Keys
import TypeSchema.Proofs.OpenApi.Operations
import TypeSchema.Proofs.OpenApi.Decoded
import TypeSchema.Proofs.OpenApi.Documents
import TypeSchema.Proofs.Json.Survival
import TypeSchema.Proofs.Json.Decoding
import TypeSchema.Proofs.References.Recursion
import TypeSchema.Proofs.Objects.Undefined
import TypeSchema.Proofs.Objects.Keys
import TypeSchema.Proofs.Objects.Hook
import TypeSchema.Proofs.Objects.Null
import TypeSchema.Proofs.Merging.Shifts
import TypeSchema.Proofs.Merging.Transport
import TypeSchema.Proofs.Merging.Dangling
import TypeSchema.Proofs.Merging.Invariance
import TypeSchema.Proofs.Merging.Laws
import TypeSchema.Proofs.History.InPlace
import TypeSchema.Proofs.History.Marks
import TypeSchema.Proofs.History.Answers
import TypeSchema.Proofs.History.Documents
import TypeSchema.Proofs.OpenApi.Occurrences
import TypeSchema.Proofs.Literals
import TypeSchema.Proofs.Objects.Branches
import TypeSchema.Proofs.Objects.Values
import TypeSchema.Proofs.Objects.Subtypes
import TypeSchema.Proofs.References.Enums
import TypeSchema.Proofs.Objects.Descriptions
import TypeSchema.Proofs.Names.Overrides
import TypeSchema.Proofs.References.Lookup
import TypeSchema.Proofs.OpenApi.Outlines
import TypeSchema.Proofs.OpenApi.Schemes
import TypeSchema.Proofs.Building.Abreast
import TypeSchema.Proofs.OpenApi.Lookups
import TypeSchema.Proofs.OpenApi.Modes
import TypeSchema.Proofs.OpenApi.Parameters
import TypeSchema.Proofs.Initializers.Operators
import TypeSchema.Proofs.Number.Whole
import TypeSchema.Proofs.Initializers.Printed
import TypeSchema.Proofs.Initializers.Assertions
import TypeSchema.Proofs.Initializers.Outermost
import TypeSchema.Proofs.Initializers.Positions
import TypeSchema.Proofs.DottedTags
import TypeSchema.Proofs.Rereading
import TypeSchema.Proofs.Enumerations
import TypeSchema.Proofs.Names.Histories
import TypeSchema.Proofs.Number.Finite
import TypeSchema.Proofs.Graph.Construction
