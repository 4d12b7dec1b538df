import LivePipeline.Calendar
import LivePipeline.Calendar.Format
import LivePipeline.DataType
import LivePipeline.DataType.Codec
import LivePipeline.DataType.Compatibility
import LivePipeline.DataType.Narrowing
import LivePipeline.DataType.Signature
import LivePipeline.DataType.Union
import LivePipeline.Engine
import LivePipeline.Evaluation
import LivePipeline.Evaluation.Call
import LivePipeline.Evaluation.Fault
import LivePipeline.Json
import LivePipeline.Json.Parser
import LivePipeline.Json.Printer
import LivePipeline.MergeSort
import LivePipeline.Narrowing
import LivePipeline.Node
import LivePipeline.Node.Build
import LivePipeline.Node.Decoding
import LivePipeline.Node.Default
import LivePipeline.Node.Edit
import LivePipeline.Node.Encoding
import LivePipeline.Node.Inference
import LivePipeline.Node.Plain
import LivePipeline.Number.Dyadic
import LivePipeline.Number.Layout
import LivePipeline.Number.Reading
import LivePipeline.Number.Shortest
import LivePipeline.Operation
import LivePipeline.Operation.Calling
import LivePipeline.Operation.Date
import LivePipeline.Operation.Dictionary
import LivePipeline.Operation.Failure
import LivePipeline.Operation.Generic
import LivePipeline.Operation.Http
import LivePipeline.Operation.Instance
import LivePipeline.Operation.Locator
import LivePipeline.Operation.Logic
import LivePipeline.Operation.Lookup
import LivePipeline.Operation.Numeric
import LivePipeline.Operation.Optional
import LivePipeline.Operation.Record
import LivePipeline.Operation.Sequence
import LivePipeline.Operation.Textual
import LivePipeline.Pattern
import LivePipeline.Pattern.Parser
import LivePipeline.Pattern.Property
import LivePipeline.Pattern.Size
import LivePipeline.Project
import LivePipeline.Project.Codec
import LivePipeline.Proofs.Skipping
import LivePipeline.Proofs.Chains
import LivePipeline.Proofs.ErrorPassing
import LivePipeline.Revision
import LivePipeline.Revision.Repair
import LivePipeline.Scope
import LivePipeline.Scope.Check
import LivePipeline.Scope.Options
import LivePipeline.Store
import LivePipeline.Table
import LivePipeline.Text.Blank
import LivePipeline.Text.Case
import LivePipeline.Text.CaseTable
import LivePipeline.Text.CharSet
import LivePipeline.Text.Hexadecimal
import LivePipeline.Text.Search
import LivePipeline.Unicode.Age
import LivePipeline.Unicode.Binary
import LivePipeline.Unicode.Category
import LivePipeline.Unicode.Combination
import LivePipeline.Unicode.Direction
import LivePipeline.Unicode.Folding
import LivePipeline.Unicode.Joining
import LivePipeline.Unicode.Normalization
import LivePipeline.Unicode.Script
import LivePipeline.Unicode.Segment
import LivePipeline.Url
import LivePipeline.Url.Domain
import LivePipeline.Url.DomainTable
import LivePipeline.Url.Host
import LivePipeline.Url.Parser
import LivePipeline.Url.Path
import LivePipeline.Url.Percent
import LivePipeline.Url.Punycode
import LivePipeline.World
import LivePipeline.Proofs.StoreHistories
import LivePipeline.Proofs.FileUpdates
import LivePipeline.Proofs.CalendarDays
import LivePipeline.Proofs.DateTexts
import LivePipeline.Proofs.Renaming
import LivePipeline.Proofs.Correspondence
import LivePipeline.Proofs.Correspondence.Simulation
import LivePipeline.Proofs.Correspondence.Building
import LivePipeline.Proofs.Correspondence.Scope
import LivePipeline.Proofs.Correspondence.Handlers
import LivePipeline.Proofs.Correspondence.Sequences
import LivePipeline.Proofs.Correspondence.Objects
import LivePipeline.Proofs.Correspondence.Builtins
import LivePipeline.Proofs.Correspondence.Calls
import LivePipeline.Proofs.Correspondence.Evaluation
import LivePipeline.Proofs.Correspondence.Revision
import LivePipeline.Proofs.Correspondence.Defaults
import LivePipeline.Proofs.Correspondence.Trailing
import LivePipeline.Proofs.Agreement
import LivePipeline.Proofs.Edits
import LivePipeline.Proofs.Effects
import LivePipeline.Proofs.Runs
import LivePipeline.Proofs.StaleResults
import LivePipeline.Proofs.Reachability
import LivePipeline.Proofs.Standards
import LivePipeline.Proofs.Standards.Builtins
import LivePipeline.Proofs.Standards.Evaluation
import LivePipeline.Proofs.NormalForm
import LivePipeline.Proofs.NormalForm.Evaluation
import LivePipeline.Proofs.Loading.Types
import LivePipeline.Proofs.Loading.Written
import LivePipeline.Proofs.Loading.Unions
import LivePipeline.Proofs.Loading.Reading
import LivePipeline.Proofs.Loading
import LivePipeline.Proofs.Rebinding
import LivePipeline.Proofs.CallArguments
import LivePipeline.Proofs.Files
import LivePipeline.Proofs.SelfCalls
import LivePipeline.Proofs.FileReferences
import LivePipeline.Proofs.Hygiene
import LivePipeline.Proofs.Hygiene.Builtins
import LivePipeline.Proofs.Hygiene.Evaluation
import LivePipeline.Proofs.Levels
import LivePipeline.Proofs.CallDepth
import LivePipeline.Proofs.Invariants
import LivePipeline.Proofs.Invariants.Revision
import LivePipeline.Proofs.Invariants.Sessions
import LivePipeline.Proofs.Requests
import LivePipeline.Proofs.Drawing
import LivePipeline.Proofs.Requests.Keys
import LivePipeline.Proofs.Requests.Clients
import LivePipeline.Proofs.ResultTypes.Fitting
import LivePipeline.Proofs.ResultTypes.Handlers
import LivePipeline.Proofs.ResultTypes
import LivePipeline.Proofs.UnionMembers
import LivePipeline.Proofs.ActiveMembers
import LivePipeline.Proofs.Offers
import LivePipeline.Proofs.Validity
import LivePipeline.Proofs.Containers
import LivePipeline.Proofs.SkippedRevision
import LivePipeline.Proofs.Transparency
import LivePipeline.Proofs.CanonicalUnions
import LivePipeline.Proofs.Partition
import LivePipeline.Proofs.TestFormulas
import LivePipeline.Proofs.Sides
import LivePipeline.Proofs.NestedTypes
import LivePipeline.Proofs.Symmetry
import LivePipeline.Proofs.Reordering
import LivePipeline.Proofs.DefaultTypes
import LivePipeline.Proofs.Places
import LivePipeline.Proofs.Sorting
import LivePipeline.Proofs.Choices
import LivePipeline.Proofs.PlainData
import LivePipeline.Proofs.Standards.Revision
import LivePipeline.Proofs.Standards.Sparing
import LivePipeline.Proofs.CarriedStatements
import LivePipeline.Proofs.Delivery
import LivePipeline.Proofs.Dates
import LivePipeline.Proofs.Separators
import LivePipeline.Proofs.Histories
import LivePipeline.Proofs.EntryChanges
import LivePipeline.Proofs.OptionalProperties
import LivePipeline.Proofs.Callbacks
import LivePipeline.Proofs.Shapes
import LivePipeline.Proofs.Shapes.Data
import LivePipeline.Proofs.Shapes.Watching
import LivePipeline.Proofs.Shapes.Evaluation
