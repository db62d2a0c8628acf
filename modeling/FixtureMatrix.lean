import FixtureMatrix.Calendar.Date
import FixtureMatrix.Calendar.Instant
import FixtureMatrix.Case.Basic
import FixtureMatrix.Case.Canonical
import FixtureMatrix.Case.Error
import FixtureMatrix.Case.Validate
import FixtureMatrix.Columnar.Array
import FixtureMatrix.Columnar.Batch
import FixtureMatrix.Columnar.Build
import FixtureMatrix.Columnar.Conversion
import FixtureMatrix.Columnar.DataType
import FixtureMatrix.Columnar.Error
import FixtureMatrix.Command.Arguments
import FixtureMatrix.Command.Basic
import FixtureMatrix.Command.Generate
import FixtureMatrix.Command.Inspect
import FixtureMatrix.Command.Perform
import FixtureMatrix.Command.Shapes
import FixtureMatrix.Command.Transcript
import FixtureMatrix.Digest.Sha256
import FixtureMatrix.Disk.Basic
import FixtureMatrix.Disk.Operations
import FixtureMatrix.Disk.Search
import FixtureMatrix.Document.Config
import FixtureMatrix.Document.Dialect
import FixtureMatrix.Document.JsonText
import FixtureMatrix.Document.JsonValue
import FixtureMatrix.Document.Manifest
import FixtureMatrix.Document.Profile
import FixtureMatrix.Document.YamlText
import FixtureMatrix.Encoder.Error
import FixtureMatrix.Encoder.Properties
import FixtureMatrix.Encoder.Request
import FixtureMatrix.Encoder.Storage
import FixtureMatrix.Error
import FixtureMatrix.Json.Basic
import FixtureMatrix.Json.Located
import FixtureMatrix.Json.Print
import FixtureMatrix.Json.Read
import FixtureMatrix.Json.Token
import FixtureMatrix.Main
import FixtureMatrix.Manifest.Basic
import FixtureMatrix.Manifest.Disk
import FixtureMatrix.Matrix.Config
import FixtureMatrix.Matrix.Job
import FixtureMatrix.Matrix.Load
import FixtureMatrix.Matrix.Plan
import FixtureMatrix.Matrix.Run
import FixtureMatrix.Number.Binary64
import FixtureMatrix.Number.Shortest
import FixtureMatrix.Panic
import FixtureMatrix.Path
import FixtureMatrix.Profile
import FixtureMatrix.Schema.Basic
import FixtureMatrix.Schema.Decimal
import FixtureMatrix.Schema.Encoding
import FixtureMatrix.Text.Blank
import FixtureMatrix.Text.Digits
import FixtureMatrix.Text.Printable
import FixtureMatrix.Text.Quoted
import FixtureMatrix.Tiling
import FixtureMatrix.Value.Basic
import FixtureMatrix.Value.Render
import FixtureMatrix.Value.Samples
import FixtureMatrix.Yaml.Cursor
import FixtureMatrix.Yaml.Node
import FixtureMatrix.Yaml.Plain
import FixtureMatrix.Yaml.Reader
import FixtureMatrix.Yaml.Scalar
import FixtureMatrix.Yaml.Scanner
import FixtureMatrix.Yaml.Tag
import FixtureMatrix.Yaml.Token
import FixtureMatrix.Proofs.Calendar.Days
import FixtureMatrix.Proofs.Calendar.Counting
import FixtureMatrix.Proofs.Calendar.Stamps
import FixtureMatrix.Proofs.Case.Admission
import FixtureMatrix.Proofs.Case.Repetition
import FixtureMatrix.Proofs.Case.Tiling
import FixtureMatrix.Proofs.Case.Violation
import FixtureMatrix.Proofs.Case.WellFormed
import FixtureMatrix.Proofs.Columnar.Acceptance
import FixtureMatrix.Proofs.Columnar.Conversion
import FixtureMatrix.Proofs.Columnar.Errors
import FixtureMatrix.Proofs.Columnar.Layout
import FixtureMatrix.Proofs.Columnar.ReadBack
import FixtureMatrix.Proofs.Columnar.RowCount
import FixtureMatrix.Proofs.Columnar.Rows
import FixtureMatrix.Proofs.Columnar.Storable
import FixtureMatrix.Proofs.Columnar.Streams
import FixtureMatrix.Proofs.Command.DryRun
import FixtureMatrix.Proofs.Command.Generate
import FixtureMatrix.Proofs.Disk.Directories
import FixtureMatrix.Proofs.Disk.Frame
import FixtureMatrix.Proofs.Disk.Keys
import FixtureMatrix.Proofs.Disk.Levels
import FixtureMatrix.Proofs.Disk.Search
import FixtureMatrix.Proofs.Disk.Trees
import FixtureMatrix.Proofs.Disk.Walks
import FixtureMatrix.Proofs.Disk.Writes
import FixtureMatrix.Proofs.Document.Records
import FixtureMatrix.Proofs.Encoder.Failure
import FixtureMatrix.Proofs.Json.RoundTrip
import FixtureMatrix.Proofs.Json.Tokens
import FixtureMatrix.Proofs.Manifest.Index
import FixtureMatrix.Proofs.Manifest.Reload
import FixtureMatrix.Proofs.Manifest.Text
import FixtureMatrix.Proofs.Manifest.Verify
import FixtureMatrix.Proofs.Matrix.CleanRun
import FixtureMatrix.Proofs.Matrix.Execution
import FixtureMatrix.Proofs.Matrix.Faults
import FixtureMatrix.Proofs.Matrix.Frame
import FixtureMatrix.Proofs.Matrix.Names
import FixtureMatrix.Proofs.Matrix.Order
import FixtureMatrix.Proofs.Matrix.Places
import FixtureMatrix.Proofs.Matrix.Plan
import FixtureMatrix.Proofs.Matrix.Recording
import FixtureMatrix.Proofs.Matrix.Requests
import FixtureMatrix.Proofs.Matrix.Rerun
import FixtureMatrix.Proofs.Matrix.Settings
import FixtureMatrix.Proofs.Matrix.Settled
import FixtureMatrix.Proofs.Matrix.SinglePass
import FixtureMatrix.Proofs.Matrix.Written
import FixtureMatrix.Proofs.Outcome
import FixtureMatrix.Proofs.Path.Components
import FixtureMatrix.Proofs.Path.Parents
import FixtureMatrix.Proofs.Schema.Depth
import FixtureMatrix.Proofs.Text.Delimited
import FixtureMatrix.Proofs.Value.Decimals
import FixtureMatrix.Proofs.Value.Legible
import FixtureMatrix.Proofs.Columnar.Nodes
import FixtureMatrix.Proofs.Columnar.Types
import FixtureMatrix.Proofs.Columnar.Structure
import FixtureMatrix.Proofs.Manifest.Lookup
import FixtureMatrix.Proofs.Disk.FileTrees
import FixtureMatrix.Proofs.Manifest.Report
import FixtureMatrix.Proofs.Case.Lookup
import FixtureMatrix.Proofs.Columnar.Mismatch
import FixtureMatrix.Proofs.Path.Portable
import FixtureMatrix.Proofs.Manifest.Located
import FixtureMatrix.Proofs.Calendar.Notation
import FixtureMatrix.Proofs.Matrix.Positions
import FixtureMatrix.Proofs.Encoder.Pages
import FixtureMatrix.Proofs.Case.Widths
import FixtureMatrix.Proofs.Text.Runs
import FixtureMatrix.Proofs.Text.Digits
import FixtureMatrix.Proofs.Profile.Spelling
import FixtureMatrix.Proofs.Matrix.Sizes
