import CanaryGate.Attempt
import CanaryGate.Comparison
import CanaryGate.Compression.Bits
import CanaryGate.Compression.Checksum
import CanaryGate.Compression.Container
import CanaryGate.Compression.Huffman
import CanaryGate.Compression.Inflate
import CanaryGate.Config.Records
import CanaryGate.Config.Settings
import CanaryGate.Decimal.Layout
import CanaryGate.Decimal.Rounded
import CanaryGate.Decimal.Shortest
import CanaryGate.Decision.Assembly
import CanaryGate.Decision.Records
import CanaryGate.Decision.Routing
import CanaryGate.Decision.Selection
import CanaryGate.Digest.Sha256
import CanaryGate.Engine.Boundary
import CanaryGate.Engine.Records
import CanaryGate.Engine.Remote
import CanaryGate.Fault
import CanaryGate.Gateway.Call
import CanaryGate.Gateway.Endpoint
import CanaryGate.Gateway.Service
import CanaryGate.Http.Address
import CanaryGate.Http.Host
import CanaryGate.Http.HostLetter
import CanaryGate.Http.HostName
import CanaryGate.Http.Message
import CanaryGate.Http.Punycode
import CanaryGate.Http.Query
import CanaryGate.Http.Redirect
import CanaryGate.Json.Bytes
import CanaryGate.Json.Coerce
import CanaryGate.Json.Display
import CanaryGate.Json.Order
import CanaryGate.Json.Reader
import CanaryGate.Json.Value
import CanaryGate.Json.Wide
import CanaryGate.Json.Writer
import CanaryGate.Numeric.Binary64
import CanaryGate.Numeric.Figure
import CanaryGate.Numeric.Numeral
import CanaryGate.Numeric.Rounding
import CanaryGate.Numeric.Sum
import CanaryGate.Observe.LogLevel
import CanaryGate.Observe.Logging
import CanaryGate.Observe.Metrics
import CanaryGate.Observe.Sanitize
import CanaryGate.Observe.Span
import CanaryGate.Observe.Tracing
import CanaryGate.Rollback.Controller
import CanaryGate.Rollback.Records
import CanaryGate.Rollout
import CanaryGate.Run.Loop
import CanaryGate.Run.Records
import CanaryGate.Shadow.Alternate
import CanaryGate.Shadow.Candidate
import CanaryGate.Shadow.Records
import CanaryGate.Store.FileTree
import CanaryGate.Store.Key
import CanaryGate.Store.Namespaces
import CanaryGate.Store.Transaction
import CanaryGate.Text.Blank
import CanaryGate.Text.Composition
import CanaryGate.Text.DecimalDigit
import CanaryGate.Text.Direction
import CanaryGate.Text.Encoding
import CanaryGate.Text.Joining
import CanaryGate.Text.LowerCase
import CanaryGate.Text.Mark
import CanaryGate.Text.Packed
import CanaryGate.Text.Percent
import CanaryGate.Text.Pieces
import CanaryGate.Text.Placeholder
import CanaryGate.Text.Point
import CanaryGate.Text.Printable
import CanaryGate.Text.Quoted
import CanaryGate.Text.Runs
import CanaryGate.Text.Script
import CanaryGate.Text.Template
import CanaryGate.Text.Uppercase
import CanaryGate.Time.Instant
import CanaryGate.Time.Timestamp
import CanaryGate.Validation.Checked
import CanaryGate.Validation.Issue
import CanaryGate.Window
import CanaryGate.Proofs.Attempt.Faults
import CanaryGate.Proofs.Attempt.Sequencing
import CanaryGate.Proofs.Attempt.Success
import CanaryGate.Proofs.Attempt.Unhindered
import CanaryGate.Proofs.Comparison.Accessors
import CanaryGate.Proofs.Comparison.Measurable
import CanaryGate.Proofs.Config.BlankSettings
import CanaryGate.Proofs.Config.EngineTimeout
import CanaryGate.Proofs.Config.Limits
import CanaryGate.Proofs.Config.Settings
import CanaryGate.Proofs.Decimal.Shortest
import CanaryGate.Proofs.Decimal.Width
import CanaryGate.Proofs.Decision.Assembly
import CanaryGate.Proofs.Decision.Coherence
import CanaryGate.Proofs.Engine.Boundary
import CanaryGate.Proofs.Engine.Notes
import CanaryGate.Proofs.Engine.Remote
import CanaryGate.Proofs.Gateway.Contact
import CanaryGate.Proofs.Gateway.Exchanges
import CanaryGate.Proofs.Gateway.Records
import CanaryGate.Proofs.Json.Distinct
import CanaryGate.Proofs.Json.Growth
import CanaryGate.Proofs.Json.Limits
import CanaryGate.Proofs.Json.Number
import CanaryGate.Proofs.Json.Plain
import CanaryGate.Proofs.Json.Readers
import CanaryGate.Proofs.Json.RoundTrip
import CanaryGate.Proofs.Json.Sendable
import CanaryGate.Proofs.Json.Text
import CanaryGate.Proofs.Json.Wide
import CanaryGate.Proofs.Numeric.Blank
import CanaryGate.Proofs.Numeric.Nearest
import CanaryGate.Proofs.Numeric.Numeral
import CanaryGate.Proofs.Numeric.Range
import CanaryGate.Proofs.Observe.LogLength
import CanaryGate.Proofs.Observe.LogText
import CanaryGate.Proofs.Rollback.FailingCandidate
import CanaryGate.Proofs.Rollback.History
import CanaryGate.Proofs.Rollback.Persistence
import CanaryGate.Proofs.Rollback.Provenance
import CanaryGate.Proofs.Rollback.Reloading
import CanaryGate.Proofs.Rollback.Salvage
import CanaryGate.Proofs.Rollback.WindowContent
import CanaryGate.Proofs.Rollout.Stickiness
import CanaryGate.Proofs.Run.Accusation
import CanaryGate.Proofs.Run.Answers
import CanaryGate.Proofs.Run.AuditRecord
import CanaryGate.Proofs.Run.BaselineAlone
import CanaryGate.Proofs.Run.Bearable
import CanaryGate.Proofs.Run.Blame
import CanaryGate.Proofs.Run.BoundedHistories
import CanaryGate.Proofs.Run.Candidate
import CanaryGate.Proofs.Run.Counters
import CanaryGate.Proofs.Run.Counting
import CanaryGate.Proofs.Run.EngineAnswers
import CanaryGate.Proofs.Run.EngineLoad
import CanaryGate.Proofs.Run.Entries
import CanaryGate.Proofs.Run.Footprint
import CanaryGate.Proofs.Run.Frame
import CanaryGate.Proofs.Run.Gauge
import CanaryGate.Proofs.Run.Hearing
import CanaryGate.Proofs.Run.History
import CanaryGate.Proofs.Run.Invocations
import CanaryGate.Proofs.Run.Journal
import CanaryGate.Proofs.Run.LatchSafety
import CanaryGate.Proofs.Run.LatchedPrimary
import CanaryGate.Proofs.Run.NonInterference
import CanaryGate.Proofs.Run.Numbers
import CanaryGate.Proofs.Run.Openings
import CanaryGate.Proofs.Run.PassedOn
import CanaryGate.Proofs.Run.Progress
import CanaryGate.Proofs.Run.RecordNames
import CanaryGate.Proofs.Run.Restart
import CanaryGate.Proofs.Run.Retention
import CanaryGate.Proofs.Run.Returned
import CanaryGate.Proofs.Run.RunIds
import CanaryGate.Proofs.Run.Served
import CanaryGate.Proofs.Run.Serving
import CanaryGate.Proofs.Run.Shelves
import CanaryGate.Proofs.Run.Soundness
import CanaryGate.Proofs.Run.Stages
import CanaryGate.Proofs.Run.Transparent
import CanaryGate.Proofs.Run.Twins
import CanaryGate.Proofs.Run.UniqueIds
import CanaryGate.Proofs.Run.Upkeep
import CanaryGate.Proofs.Store.Commit
import CanaryGate.Proofs.Store.Detached
import CanaryGate.Proofs.Store.Distinct
import CanaryGate.Proofs.Store.Durability
import CanaryGate.Proofs.Store.Frame
import CanaryGate.Proofs.Store.Program
import CanaryGate.Proofs.Store.Pruning
import CanaryGate.Proofs.Store.StateFile
import CanaryGate.Proofs.Comparison.Keys
import CanaryGate.Proofs.Comparison.Sides
import CanaryGate.Proofs.Rollback.WindowEvaluation
import CanaryGate.Proofs.Comparison.Labels
import CanaryGate.Proofs.Comparison.Partition
import CanaryGate.Proofs.Json.Same
import CanaryGate.Proofs.Comparison.Rearranged
import CanaryGate.Proofs.Comparison.Symmetry
