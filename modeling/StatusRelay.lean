import StatusRelay.Text.Words
import StatusRelay.Json.Reader
import StatusRelay.Timestamp.Reader
import StatusRelay.Event.Json
import StatusRelay.Text.Quoted
import StatusRelay.Admission
import StatusRelay.Registry
import StatusRelay.Bus
import StatusRelay.Crash
import StatusRelay.Permits
import StatusRelay.Provider
import StatusRelay.Worker
import StatusRelay.Consumer
import StatusRelay.Occurrence
import StatusRelay.World
import StatusRelay.World.Strides
import StatusRelay.Scheduler
import StatusRelay.Binary64
import StatusRelay.Metrics
import StatusRelay.Metrics.Text
import StatusRelay.Url.Reader
import StatusRelay.Duration
import StatusRelay.Http
import StatusRelay.Webhook.Delivery
import StatusRelay.Settings.Environment
import StatusRelay.Settings.Json
import StatusRelay.Settings.Toml
import StatusRelay.Sinks
import StatusRelay.Monitor
import StatusRelay.Xml.Reader
import StatusRelay.Html.Fragment
import StatusRelay.Feed
import StatusRelay.Incident.Reader
import StatusRelay.StatusPage
import StatusRelay.Program.Traffic
import StatusRelay.Main
import StatusRelay.Proofs.Bus.Publish
import StatusRelay.Proofs.Bus.Sound
import StatusRelay.Proofs.Bus.Session
import StatusRelay.Proofs.Bus.Contents
import StatusRelay.Proofs.Bus.History
import StatusRelay.Proofs.Bus.Delivery
import StatusRelay.Proofs.Bus.Settling
import StatusRelay.Proofs.Bus.Cancellation
import StatusRelay.Proofs.World.Moves
import StatusRelay.Proofs.World.Frames
import StatusRelay.Proofs.World.Quiet
import StatusRelay.Proofs.World.Control
import StatusRelay.Proofs.Admission
import StatusRelay.Proofs.Admission.Callers
import StatusRelay.Proofs.World.Ledger
import StatusRelay.Proofs.World.Incidents
import StatusRelay.Proofs.Bus.Backpressure
import StatusRelay.Proofs.Bus.Isolation
import StatusRelay.Proofs.World.Roster
import StatusRelay.Proofs.World.Polls
import StatusRelay.Proofs.World.Shutdown
import StatusRelay.Proofs.World.Tally
import StatusRelay.Proofs.Bus.Fanout
import StatusRelay.Proofs.World.Feeding
import StatusRelay.Proofs.World.Strides
import StatusRelay.Proofs.Bus.Ebbing
import StatusRelay.Proofs.World.Threads
import StatusRelay.Proofs.World.Sustained
import StatusRelay.Proofs.World.OneThread
import StatusRelay.Proofs.World.Calls
import StatusRelay.Proofs.World.Cycles
import StatusRelay.Proofs.World.Mending
import StatusRelay.Proofs.World.Twin
import StatusRelay.Proofs.World.Crashes
import StatusRelay.Proofs.Startup
import StatusRelay.Proofs.Monitor
import StatusRelay.Proofs.StatusPage
import StatusRelay.Proofs.World.Balance
import StatusRelay.Proofs.World.Joining
import StatusRelay.Proofs.Webhook
import StatusRelay.Proofs.Bus.Counting
import StatusRelay.Proofs.Bus.Register
import StatusRelay.Proofs.World.Waking
import StatusRelay.Proofs.World.Overtaking
import StatusRelay.Proofs.Metrics
import StatusRelay.Proofs.Binary64
import StatusRelay.Proofs.Metrics.Guards
import StatusRelay.Proofs.World.Labels
import StatusRelay.Proofs.World.Measured
import StatusRelay.Proofs.Bus.Arrivals
import StatusRelay.Proofs.World.Neighbours
import StatusRelay.Proofs.World.Timely
import StatusRelay.Proofs.World.Course
import StatusRelay.Proofs.World.Cadence
import StatusRelay.Proofs.World.Exchange
import StatusRelay.Proofs.World.Handling
import StatusRelay.Proofs.World.Loop
import StatusRelay.Proofs.Incident.Status
import StatusRelay.Proofs.Incident.Components
import StatusRelay.Proofs.Incident.Translation
import StatusRelay.Proofs.Json
import StatusRelay.Proofs.Calendar
import StatusRelay.Proofs.Timestamp
import StatusRelay.Proofs.Event
import StatusRelay.Proofs.Text.Utf8
import StatusRelay.Proofs.Text.Words
import StatusRelay.Proofs.Toml.Strings
import StatusRelay.Proofs.Toml.Values
import StatusRelay.Proofs.Toml.Lines
import StatusRelay.Proofs.Settings.Document
import StatusRelay.Proofs.Settings.Loading
