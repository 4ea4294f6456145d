import TableGateway.Arguments
import TableGateway.Config
import TableGateway.Driver.Basic
import TableGateway.Driver.Error
import TableGateway.Driver.Metadata
import TableGateway.Driver.MetadataJson
import TableGateway.ExpressionError
import TableGateway.Filter.Clause
import TableGateway.Filter.Condition
import TableGateway.Filter.Literal
import TableGateway.Filter.Operator
import TableGateway.Gateway
import TableGateway.Json.Basic
import TableGateway.Json.Document
import TableGateway.Json.Members
import TableGateway.Json.Number
import TableGateway.Json.Parser
import TableGateway.Json.Printer
import TableGateway.Json.Record
import TableGateway.Json.Token
import TableGateway.Naming
import TableGateway.Numeric.Binary64
import TableGateway.Numeric.Literal
import TableGateway.Numeric.Power
import TableGateway.Numeric.Shortest
import TableGateway.OrderedMap
import TableGateway.Pagination
import TableGateway.Resolver.Authorizer
import TableGateway.Resolver.Crud
import TableGateway.Resolver.Error
import TableGateway.Resolver.Invocation
import TableGateway.Resolver.Key
import TableGateway.Resolver.Program
import TableGateway.Resolver.Registry
import TableGateway.Resolver.Relation
import TableGateway.Resolver.Session
import TableGateway.Resolver.Synthesis
import TableGateway.Schema.Compiler
import TableGateway.Schema.Field
import TableGateway.Schema.Model
import TableGateway.Schema.Sdl
import TableGateway.Schema.TypeRef
import TableGateway.Store.Basic
import TableGateway.Store.Selection
import TableGateway.Store.Upsert
import TableGateway.Text.Blank
import TableGateway.Text.Camel
import TableGateway.Text.CaseTable
import TableGateway.Text.Casing
import TableGateway.Text.HiddenTable
import TableGateway.Text.LetterTable
import TableGateway.Text.Quoted
import TableGateway.Text.Segments
import TableGateway.Text.Span
import TableGateway.Proofs.Authorization.Audit
import TableGateway.Proofs.Authorization.Resolving
import TableGateway.Proofs.Authorization.Runs
import TableGateway.Proofs.Authorization.Safety
import TableGateway.Proofs.FirstMention
import TableGateway.Proofs.LastWrite
import TableGateway.Proofs.Schema.FieldWrites
import TableGateway.Proofs.Assembly.Build
import TableGateway.Proofs.Catalog
import TableGateway.Proofs.Naming
import TableGateway.Proofs.Schema.ObjectType
import TableGateway.Proofs.Schema.Compiled
import TableGateway.Proofs.Schema.Closed
import TableGateway.Proofs.Schema.OwnDefinitions
import TableGateway.Proofs.Schema.SkippedColumns
import TableGateway.Proofs.Assembly.Declared
import TableGateway.Proofs.Filter.Operators
import TableGateway.Proofs.Filter.RoundTrip
import TableGateway.Proofs.Filter.JoinKey
import TableGateway.Proofs.Json.Equality
import TableGateway.Proofs.Json.Overlay
import TableGateway.Proofs.Store.Keys
import TableGateway.Proofs.Store.OneRow
import TableGateway.Proofs.Store.KeyRuns
import TableGateway.Proofs.Store.Successive
import TableGateway.Proofs.Store.Selecting
import TableGateway.Proofs.Resolver.Joins
import TableGateway.Proofs.Registry.KeyOrder
import TableGateway.Proofs.Registry.Run
import TableGateway.Proofs.Registry.Refinement
import TableGateway.Proofs.Assembly.Calls
import TableGateway.Proofs.Assembly.Completion
import TableGateway.Proofs.Assembly.Counterpart
import TableGateway.Proofs.Resolver.Returns
import TableGateway.Proofs.Assembly.Delivery
import TableGateway.Proofs.Numeric.Rounding
import TableGateway.Proofs.Numeric.ShortestDecimal
import TableGateway.Proofs.Numeric.RoundTrip
import TableGateway.Proofs.Resolver.Written
import TableGateway.Proofs.Resolver.Mutations
import TableGateway.Proofs.Arguments
import TableGateway.Proofs.Pagination
import TableGateway.Proofs.Resolver.Paging
import TableGateway.Proofs.Resolver.Narrowing
import TableGateway.Proofs.Resolver.PageLimits
import TableGateway.Proofs.Assembly.PageLimits
import TableGateway.Proofs.Text.Legible
import TableGateway.Proofs.Schema.SchemaText
import TableGateway.Proofs.OrderedMap
import TableGateway.Proofs.Schema.ModelWrites
import TableGateway.Proofs.Schema.Work
import TableGateway.Proofs.Schema.Operations
import TableGateway.Proofs.Schema.Growth
import TableGateway.Proofs.Schema.LatestAttempts
import TableGateway.Proofs.Schema.KeptText
import TableGateway.Proofs.Schema.BuildPaths
import TableGateway.Proofs.Schema.Layout
import TableGateway.Proofs.Filter.Location
import TableGateway.Proofs.Filter.Grammar
import TableGateway.Proofs.Resolver.KeyClauses
import TableGateway.Proofs.Assembly.BothWays
import TableGateway.Proofs.Store.SortedPages
import TableGateway.Proofs.Store.RangeOrder
import TableGateway.Proofs.Filter.Comparisons
import TableGateway.Proofs.Text.Lowercase
import TableGateway.Proofs.Filter.PartialMatch
import TableGateway.Proofs.Text.SmallForms
import TableGateway.Proofs.Store.TypeMapping
import TableGateway.Proofs.Resolver.Failures
import TableGateway.Proofs.ReadArguments
import TableGateway.Proofs.Pagination.Entries
import TableGateway.Proofs.Json.Lookup
import TableGateway.Proofs.Json.NumberText
import TableGateway.Proofs.Json.WrittenText
import TableGateway.Proofs.MetadataText
