import LanRelay.Bus.Channel
import LanRelay.Bus.Datagram
import LanRelay.Bus.Message
import LanRelay.Bus.Node
import LanRelay.Bus.Record
import LanRelay.Bus.Table
import LanRelay.Bytes
import LanRelay.Cli.Arguments
import LanRelay.Cli.Execution
import LanRelay.Cli.Invocation
import LanRelay.Cli.LogFormat
import LanRelay.Cli.Report
import LanRelay.Config.Advice
import LanRelay.Config.Blueprint
import LanRelay.Config.File
import LanRelay.Config.Record
import LanRelay.Config.Rule
import LanRelay.Document
import LanRelay.Document.Json
import LanRelay.Document.Toml
import LanRelay.Document.Toml.Number
import LanRelay.Document.Toml.Printer
import LanRelay.Document.Toml.Table
import LanRelay.Document.Toml.Text
import LanRelay.Fault
import LanRelay.Flow.Fanout
import LanRelay.Flow.Intake
import LanRelay.Flow.Outlet
import LanRelay.Flow.Pipe
import LanRelay.Flow.Polled
import LanRelay.Flow.Queue
import LanRelay.Flow.Registry
import LanRelay.Keyed
import LanRelay.Net.Address
import LanRelay.Net.Address.Parser
import LanRelay.Net.Address.Printer
import LanRelay.Rtp.Packet
import LanRelay.Session.Description
import LanRelay.Session.Fault
import LanRelay.Session.Inbound
import LanRelay.Session.Link
import LanRelay.Session.Proxy
import LanRelay.Session.Proxy.Basic
import LanRelay.Session.Proxy.Shutdown
import LanRelay.Session.Proxy.Streams
import LanRelay.Session.Proxy.Supervision
import LanRelay.Session.Request
import LanRelay.Session.Sinks
import LanRelay.Session.State
import LanRelay.SessionId
import LanRelay.Stats.Gauge
import LanRelay.Stats.RunReport
import LanRelay.Stats.Running
import LanRelay.Stats.Tally
import LanRelay.Stats.Throughput
import LanRelay.Stream
import LanRelay.Text.Blank
import LanRelay.Text.Digits
import LanRelay.Text.FixedPoint
import LanRelay.Text.Hidden
import LanRelay.Text.Quoted
import LanRelay.Time.Calendar
import LanRelay.Time.Timestamp
import LanRelay.Wire.Key
import LanRelay.Wire.Schema
import LanRelay.Wire.Varint
import LanRelay.Main
import LanRelay.Proofs.Outcome
import LanRelay.Proofs.Rtp.Grammar
import LanRelay.Proofs.Wire.Fields
import LanRelay.Proofs.Bus.RoundTrip
import LanRelay.Proofs.Bus.Kinds
import LanRelay.Proofs.Flow.Waiting
import LanRelay.Proofs.Session.Tracks
import LanRelay.Proofs.Media.Path
import LanRelay.Proofs.Flow.Registry
import LanRelay.Proofs.Media.Order
import LanRelay.Proofs.Media.Tracks
import LanRelay.Proofs.Media.Integrity
import LanRelay.Proofs.Flow.DropPolicy
import LanRelay.Proofs.Keyed
import LanRelay.Proofs.Net.Order
import LanRelay.Proofs.Time.Stamps
import LanRelay.Proofs.Bus.Handling
import LanRelay.Proofs.Bus.Freshness
import LanRelay.Proofs.Bus.Safety
import LanRelay.Proofs.Flow.Ownership
import LanRelay.Proofs.Session.Supervision
import LanRelay.Proofs.Session.Turns
import LanRelay.Proofs.Session.Lifecycle
import LanRelay.Proofs.Flow.Isolation
import LanRelay.Proofs.Bus.Staleness
import LanRelay.Proofs.Bus.Refreshing
import LanRelay.Proofs.Session.PayloadType
import LanRelay.Proofs.Flow.Draining
import LanRelay.Proofs.Bus.Steadiness
import LanRelay.Proofs.Session.Orphans
import LanRelay.Proofs.Session.Collision
import LanRelay.Proofs.Flow.Contention
import LanRelay.Proofs.Session.Eviction
import LanRelay.Proofs.Bus.Confinement
import LanRelay.Proofs.Wire.Cut
import LanRelay.Proofs.Rtp.Truncation
import LanRelay.Proofs.Bus.Truncation
import LanRelay.Proofs.Bus.Delivery
import LanRelay.Proofs.Flow.History
import LanRelay.Proofs.Session.Upkeep
import LanRelay.Proofs.Session.Stopping
import LanRelay.Proofs.Text.Numerals
import LanRelay.Proofs.Net.RoundTrip
import LanRelay.Proofs.Document.Json
import LanRelay.Proofs.Document.Toml.Quoted
import LanRelay.Proofs.Document.Toml
import LanRelay.Proofs.Config.Record
import LanRelay.Proofs.Config.RoundTrip
import LanRelay.Proofs.Wire.Weight
import LanRelay.Proofs.Bus.Forwarding
import LanRelay.Proofs.Bus.Sweeping
import LanRelay.Proofs.Flow.Streaks
import LanRelay.Proofs.Session.Disconnection
import LanRelay.Proofs.Session.Reading
import LanRelay.Proofs.Rtp.NormalForm
import LanRelay.Proofs.Time.Correspondence
import LanRelay.Proofs.Text.Cutting
import LanRelay.Proofs.Session.Resolution
import LanRelay.Proofs.Session.Answer
import LanRelay.Proofs.Stats.Running
import LanRelay.Proofs.Config.Rule
import LanRelay.Proofs.Config.Advice
import LanRelay.Proofs.Session.Ledger
import LanRelay.Proofs.Session.Negotiation
import LanRelay.Proofs.Session.Room
import LanRelay.Proofs.Cli.Setup
