import LiveTemplates.Clock
import LiveTemplates.Command
import LiveTemplates.Command.Arguments
import LiveTemplates.Debounce
import LiveTemplates.Debounce.Host
import LiveTemplates.Debounce.Session
import LiveTemplates.Delay
import LiveTemplates.Engine.Basic
import LiveTemplates.Engine.Lifecycle
import LiveTemplates.Engine.Listening
import LiveTemplates.Engine.Processing
import LiveTemplates.Engine.Watching
import LiveTemplates.Event
import LiveTemplates.EventBus
import LiveTemplates.EventBus.Session
import LiveTemplates.Expansion
import LiveTemplates.Expansion.Basic
import LiveTemplates.Expansion.Termination
import LiveTemplates.FileTree
import LiveTemplates.Include
import LiveTemplates.Json
import LiveTemplates.Json.Reader
import LiveTemplates.Json.Writer
import LiveTemplates.Log.Entry
import LiveTemplates.Log.Logger
import LiveTemplates.Main
import LiveTemplates.Number.Binary64
import LiveTemplates.Path
import LiveTemplates.Path.Filter
import LiveTemplates.ProcessResult
import LiveTemplates.Proofs.Debounce.Disposal
import LiveTemplates.Proofs.Debounce.Ledger
import LiveTemplates.Proofs.Engine.Agreement
import LiveTemplates.Proofs.Engine.Brackets
import LiveTemplates.Proofs.Engine.Calls
import LiveTemplates.Proofs.Engine.Disposal
import LiveTemplates.Proofs.Engine.EventOrder
import LiveTemplates.Proofs.Engine.Frame
import LiveTemplates.Proofs.Engine.Lifecycle
import LiveTemplates.Proofs.Engine.MonitoredDirectory
import LiveTemplates.Proofs.Engine.Overwriting
import LiveTemplates.Proofs.Engine.Quiet
import LiveTemplates.Proofs.Engine.Reports
import LiveTemplates.Proofs.Engine.Responses
import LiveTemplates.Proofs.EventBus.Order
import LiveTemplates.Proofs.EventBus.Delivery
import LiveTemplates.Proofs.Expansion.Circular
import LiveTemplates.Proofs.Expansion.Iterations
import LiveTemplates.Proofs.Expansion.Simulation
import LiveTemplates.Proofs.Expansion.Spliced
import LiveTemplates.Proofs.Expansion.Distinct
import LiveTemplates.Proofs.Expansion.Structural
import LiveTemplates.Proofs.FileTree.Change
import LiveTemplates.Proofs.FileTree.Place
import LiveTemplates.Proofs.Path.Normal
import LiveTemplates.Proofs.Path.Order
import LiveTemplates.Proofs.Path.Reading
import LiveTemplates.Proofs.References.Cascade
import LiveTemplates.Proofs.References.Closure
import LiveTemplates.Proofs.References.Inclusion
import LiveTemplates.Proofs.References.Index
import LiveTemplates.Proofs.References.Listing
import LiveTemplates.Proofs.References.Search
import LiveTemplates.Proofs.Tag.Clean
import LiveTemplates.Proofs.Tag.Grammar
import LiveTemplates.Proofs.Watch.Attention
import LiveTemplates.Proofs.Watch.Tidy
import LiveTemplates.References
import LiveTemplates.Settings
import LiveTemplates.Settings.Coercion
import LiveTemplates.Settings.Environment
import LiveTemplates.Settings.Sidecar
import LiveTemplates.Settings.VariableFile
import LiveTemplates.Tag.Basic
import LiveTemplates.Tag.Scan
import LiveTemplates.Text.Blank
import LiveTemplates.Text.CaseFold
import LiveTemplates.Text.CharTable
import LiveTemplates.Text.Decimal
import LiveTemplates.Text.Glob
import LiveTemplates.Text.Lines
import LiveTemplates.Text.Lowercase
import LiveTemplates.Text.Padded
import LiveTemplates.Text.Printable
import LiveTemplates.Text.Quoted
import LiveTemplates.Text.Uppercase
import LiveTemplates.Text.Utf8
import LiveTemplates.Text.Word
import LiveTemplates.Unused
import LiveTemplates.Watch.FileEvent
import LiveTemplates.Watch.FolderWatcher
import LiveTemplates.Watch.Session
import LiveTemplates.Proofs.Number.Rounding
import LiveTemplates.Proofs.Debounce.Timers
import LiveTemplates.Proofs.Watch.Notices
import LiveTemplates.Proofs.Engine.Heeding
import LiveTemplates.Proofs.Engine.Selection
import LiveTemplates.Proofs.FileTree.Growth
import LiveTemplates.Proofs.FileTree.Repetition
import LiveTemplates.Proofs.Expansion.Locality
import LiveTemplates.Proofs.Engine.Rendering
import LiveTemplates.Proofs.References.Relisting
import LiveTemplates.Proofs.Engine.Retracing
import LiveTemplates.Proofs.Engine.Idempotence
import LiveTemplates.Proofs.Engine.Snapshot
import LiveTemplates.Proofs.Tag.Places
import LiveTemplates.Proofs.References.Orders
import LiveTemplates.Proofs.FileTree.Writings
import LiveTemplates.Proofs.FileTree.Resolution
import LiveTemplates.Proofs.Engine.Outputs
import LiveTemplates.Proofs.Engine.Reconfiguration
import LiveTemplates.Proofs.Debounce.Waiting
import LiveTemplates.Proofs.Debounce.Steps
import LiveTemplates.Proofs.Debounce.Timing
