import Throughput.Address.Ipv4
import Throughput.Address.Ipv6
import Throughput.Address.Socket
import Throughput.Budget
import Throughput.CommandLine.Fault
import Throughput.CommandLine.Help
import Throughput.CommandLine.Invocation
import Throughput.CommandLine.Level
import Throughput.CommandLine.Options
import Throughput.CommandLine.Scan
import Throughput.CommandLine.Value
import Throughput.Configuration.Basic
import Throughput.Configuration.Load
import Throughput.Configuration.Read
import Throughput.Definition
import Throughput.Download.Agenda
import Throughput.Download.Coordinator
import Throughput.Download.Dialing
import Throughput.Download.Run
import Throughput.Error
import Throughput.Event
import Throughput.Failure
import Throughput.Json.Amount
import Throughput.Json.Decode
import Throughput.Json.Definition
import Throughput.Json.Fault
import Throughput.Json.Node
import Throughput.Json.Numeral
import Throughput.Json.Quoted
import Throughput.Json.Result
import Throughput.Json.Token
import Throughput.Json.Value
import Throughput.Kind
import Throughput.Latch
import Throughput.Main
import Throughput.Network
import Throughput.Numeric.Scaled
import Throughput.Numeric.Shortest
import Throughput.Numeric.Word
import Throughput.Probe.Basic
import Throughput.Probe.Run
import Throughput.Probe.State
import Throughput.Probe.Timers
import Throughput.Program
import Throughput.Proofs.Latch
import Throughput.Proofs.Probe.Filing
import Throughput.Proofs.Probe.Hearing
import Throughput.Proofs.Probe.Listening
import Throughput.Proofs.Probe.Outcome
import Throughput.Proofs.Tracker.Log
import Throughput.Rate
import Throughput.Record
import Throughput.Registry
import Throughput.Request
import Throughput.Resolver
import Throughput.Result
import Throughput.Run
import Throughput.Sample
import Throughput.Sender
import Throughput.Setting.Basic
import Throughput.Setting.Environment
import Throughput.Setting.Inline
import Throughput.Span
import Throughput.Target
import Throughput.Text.Blank
import Throughput.Text.Digits
import Throughput.Text.Fields
import Throughput.Toml.Document
import Throughput.Toml.Line
import Throughput.Toml.Quoted
import Throughput.Toml.Scalar
import Throughput.Toml.Table
import Throughput.Toml.Value
import Throughput.Tracker
import Throughput.Train
import Throughput.Trust
import Throughput.Unicode.Bidi
import Throughput.Unicode.BidiData
import Throughput.Unicode.Joining
import Throughput.Unicode.JoiningData
import Throughput.Unicode.Mapping
import Throughput.Unicode.MappingData
import Throughput.Unicode.Mark
import Throughput.Unicode.MarkData
import Throughput.Unicode.Normal
import Throughput.Unicode.NormalData
import Throughput.Unicode.Ranges
import Throughput.Url.Basic
import Throughput.Url.Fault
import Throughput.Url.Host
import Throughput.Url.Idna
import Throughput.Url.Path
import Throughput.Url.Percent
import Throughput.Url.Punycode
import Throughput.Worker.Basic
import Throughput.Worker.Session
import Throughput.Worker.State
import Throughput.Worker.Task
import Throughput.Proofs.Tracker.Counts
import Throughput.Proofs.Tracker.Interleaving
import Throughput.Proofs.StableSort
import Throughput.Proofs.Worker.Readings
import Throughput.Proofs.Download.Carried
import Throughput.Proofs.Download.Passage
import Throughput.Proofs.Download.Opening
import Throughput.Proofs.Download.Ending
import Throughput.Proofs.Download.Forecast
import Throughput.Proofs.Download.Plan
import Throughput.Proofs.Download.Overture
import Throughput.Proofs.Definition
import Throughput.Proofs.Download.Reference
import Throughput.Proofs.Numeric.Normal
import Throughput.Proofs.Numeric.Sized
import Throughput.Proofs.Trust
import Throughput.Proofs.Download.Shape
import Throughput.Proofs.Budget
import Throughput.Proofs.Worker.Traffic
import Throughput.Proofs.Download.Reach
import Throughput.Proofs.Download.Traffic
import Throughput.Proofs.Probe.Charging
import Throughput.Proofs.Accounting
import Throughput.Proofs.Numeric.Division
import Throughput.Proofs.Rate
import Throughput.Proofs.Download.Rates
import Throughput.Proofs.Announcement
import Throughput.Proofs.Probe.Cutting
import Throughput.Proofs.Download.Cutting
import Throughput.Proofs.Cancellation
import Throughput.Proofs.Download.Answer
import Throughput.Proofs.Download.Mirror
import Throughput.Proofs.Download.Siblings
import Throughput.Proofs.Download.Interchange
import Throughput.Proofs.Download.Delay
import Throughput.Proofs.Download.Delay.Answer
import Throughput.Proofs.Download.Dialing
import Throughput.Proofs.Download.Connected
import Throughput.Proofs.Record
import Throughput.Proofs.Sender
import Throughput.Proofs.Probe.Agreement
import Throughput.Proofs.Text.Visible
import Throughput.Proofs.Url.Visible
import Throughput.Proofs.Request
import Throughput.Proofs.Json.Numeral
import Throughput.Proofs.Json.Quoted
import Throughput.Proofs.Json.Token
import Throughput.Proofs.Json.Double
import Throughput.Proofs.Json.Value
import Throughput.Proofs.Json.Document
import Throughput.Proofs.Json.RoundTrip
import Throughput.Proofs.Exchange.Basic
import Throughput.Proofs.Exchange.Stage
import Throughput.Proofs.Exchange.Invariant
import Throughput.Proofs.Exchange.Drive
import Throughput.Proofs.Exchange.Protocol
import Throughput.Proofs.Exchange.Schedule
import Throughput.Proofs.Slots
import Throughput.Proofs.Admission
import Throughput.Proofs.Setting.Merge
import Throughput.Proofs.Configuration.Place
import Throughput.Proofs.Setting.Environment
import Throughput.Proofs.Setting.Section
import Throughput.Proofs.Configuration.Layers
import Throughput.Proofs.Average
import Throughput.Proofs.BareHost
import Throughput.Proofs.Probe.Masking
import Throughput.Proofs.Worker.LifeCycle
import Throughput.Proofs.Probe.Unreachable
import Throughput.Proofs.Reordering
import Throughput.Proofs.Sender.Coverage
import Throughput.Proofs.Budget.History
import Throughput.Proofs.Request.Timestamp
import Throughput.Proofs.Json.Overlay
import Throughput.Proofs.Trust.Verdict
import Throughput.Proofs.Slots.Unbounded
import Throughput.Proofs.Probe.States
import Throughput.Proofs.Tracker.AnyLog
import Throughput.Proofs.Train.Bookkeeping
