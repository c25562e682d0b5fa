import TypedTables.Calendar.Basic
import TypedTables.Calendar.Reading
import TypedTables.Calendar.Writing
import TypedTables.Effect.Deferred
import TypedTables.Effect.Event
import TypedTables.Effect.Traced
import TypedTables.Email
import TypedTables.Fault
import TypedTables.FieldType.Basic
import TypedTables.FieldType.Lowering
import TypedTables.Identifier
import TypedTables.Issue
import TypedTables.Json.Text
import TypedTables.Log.Context
import TypedTables.Log.Entry
import TypedTables.Log.Line
import TypedTables.Number.Binary64
import TypedTables.Number.Decimal
import TypedTables.Number.FloatText
import TypedTables.Number.Shortest
import TypedTables.Pattern.Basic
import TypedTables.Pattern.Characters
import TypedTables.Pattern.Escape
import TypedTables.Pattern.Fault
import TypedTables.Pattern.Matching
import TypedTables.Pattern.Reading
import TypedTables.Pattern.Source
import TypedTables.Proofs.Effect.Settling
import TypedTables.Proofs.Effect.Spending
import TypedTables.Proofs.FieldType.Admission
import TypedTables.Proofs.FieldType.Agreement
import TypedTables.Proofs.FieldType.Capturing
import TypedTables.Proofs.FieldType.Chains
import TypedTables.Proofs.FieldType.Children
import TypedTables.Proofs.FieldType.Collecting
import TypedTables.Proofs.FieldType.Independence
import TypedTables.Proofs.FieldType.KeyTypes
import TypedTables.Proofs.FieldType.Keys
import TypedTables.Proofs.FieldType.Nesting
import TypedTables.Proofs.FieldType.Positions
import TypedTables.Proofs.FieldType.Recursion
import TypedTables.Proofs.FieldType.References
import TypedTables.Proofs.FieldType.Resemblance
import TypedTables.Proofs.FieldType.Sharing
import TypedTables.Proofs.FieldType.Steps
import TypedTables.Proofs.FieldType.Terms
import TypedTables.Proofs.FieldType.Texts
import TypedTables.Proofs.FieldType.Watching
import TypedTables.Proofs.Json.Reading
import TypedTables.Proofs.Json.RoundTrip
import TypedTables.Proofs.Log.Blocks
import TypedTables.Proofs.Log.Lines
import TypedTables.Proofs.Pattern.Taking
import TypedTables.Proofs.Schema.Cycles
import TypedTables.Proofs.Schema.Defaults
import TypedTables.Proofs.Schema.Graph
import TypedTables.Proofs.Schema.Heights
import TypedTables.Proofs.Schema.Identities
import TypedTables.Proofs.Schema.Reach
import TypedTables.Proofs.Schema.Recolouring
import TypedTables.Proofs.Schema.Wraps
import TypedTables.Proofs.Statement.Batches
import TypedTables.Proofs.Statement.Endpoints
import TypedTables.Proofs.Statement.Faults
import TypedTables.Proofs.Statement.Fields
import TypedTables.Proofs.Statement.Flattening
import TypedTables.Proofs.Statement.Integrity
import TypedTables.Proofs.Statement.Paths
import TypedTables.Proofs.Statement.Refusals
import TypedTables.Proofs.Statement.Sending
import TypedTables.Proofs.Statement.Sharing
import TypedTables.Proofs.Statement.Termination
import TypedTables.Proofs.Statement.Texts
import TypedTables.Proofs.Table.Building
import TypedTables.Proofs.Table.Ends
import TypedTables.Proofs.Table.LastWrites
import TypedTables.Proofs.Table.Registrations
import TypedTables.Proofs.Table.Shape
import TypedTables.Proofs.Text.Names
import TypedTables.Proofs.Text.Quoting
import TypedTables.Proofs.Text.Records
import TypedTables.Proofs.Text.Sealing
import TypedTables.Proofs.Text.Separating
import TypedTables.Proofs.Validation.Absence
import TypedTables.Proofs.Validation.Accepted
import TypedTables.Proofs.Validation.Addresses
import TypedTables.Proofs.Validation.Awaitables
import TypedTables.Proofs.Validation.Awaiting
import TypedTables.Proofs.Validation.Catchalls
import TypedTables.Proofs.Validation.Deepening
import TypedTables.Proofs.Validation.Depth
import TypedTables.Proofs.Validation.Evaluation
import TypedTables.Proofs.Validation.Gathering
import TypedTables.Proofs.Validation.Idempotence
import TypedTables.Proofs.Validation.Intersections
import TypedTables.Proofs.Validation.Jobs
import TypedTables.Proofs.Validation.Joining
import TypedTables.Proofs.Validation.Leaves
import TypedTables.Proofs.Validation.Listed
import TypedTables.Proofs.Validation.Locations
import TypedTables.Proofs.Validation.Modes
import TypedTables.Proofs.Validation.Objects
import TypedTables.Proofs.Validation.Obstacles
import TypedTables.Proofs.Validation.Plain
import TypedTables.Proofs.Validation.Recoloured
import TypedTables.Proofs.Validation.RefusedKeys
import TypedTables.Proofs.Validation.Rekeying
import TypedTables.Proofs.Validation.Returning
import TypedTables.Proofs.Validation.Repeating
import TypedTables.Proofs.Validation.Runs
import TypedTables.Proofs.Validation.Sizes
import TypedTables.Proofs.Validation.Splitting
import TypedTables.Proofs.Validation.Termination
import TypedTables.Proofs.Validation.Unions
import TypedTables.Proofs.Validation.WellFormedness
import TypedTables.Proofs.Value.Awaitables
import TypedTables.Proofs.Value.Data
import TypedTables.Proofs.Value.Equivalence
import TypedTables.Proofs.Value.Freezing
import TypedTables.Proofs.Value.Likeness
import TypedTables.Proofs.Value.Literals
import TypedTables.Proofs.Value.Merging
import TypedTables.Proofs.Value.Refusals
import TypedTables.Proofs.Value.Strictness
import TypedTables.Proofs.Value.Templates
import TypedTables.Proofs.Value.Walking
import TypedTables.RecordText
import TypedTables.Schema.Basic
import TypedTables.Schema.Construction
import TypedTables.Schema.Height
import TypedTables.Schema.Method
import TypedTables.Schema.Naming
import TypedTables.Schema.Outline
import TypedTables.Settings
import TypedTables.Statement.Basic
import TypedTables.Statement.Generation
import TypedTables.Statement.Options
import TypedTables.Table.Registry
import TypedTables.Table.Shape
import TypedTables.Text.Casing
import TypedTables.Text.Classes
import TypedTables.Text.CodePoints
import TypedTables.Text.Composition
import TypedTables.Text.Marks
import TypedTables.Text.Printing
import TypedTables.Text.Quoted
import TypedTables.Url.Basic
import TypedTables.Url.Domain
import TypedTables.Url.Domain.Direction
import TypedTables.Url.Domain.Joining
import TypedTables.Url.Domain.Mapping
import TypedTables.Url.Host
import TypedTables.Url.Path
import TypedTables.Url.Percent
import TypedTables.Url.Punycode
import TypedTables.Url.Reading
import TypedTables.Uuid
import TypedTables.Validation.Combination
import TypedTables.Validation.Container
import TypedTables.Validation.Joining
import TypedTables.Validation.Leaf
import TypedTables.Validation.Merge
import TypedTables.Validation.Payload
import TypedTables.Validation.Run
import TypedTables.Validation.Wrapper
import TypedTables.Value.Basic
import TypedTables.Value.Display
import TypedTables.Value.Equality
import TypedTables.Value.Function
import TypedTables.Value.Template
import TypedTables.Value.Written
