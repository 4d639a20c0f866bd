import DeviceLink.Main
import DeviceLink.Rehearsal.Bench
import DeviceLink.Rehearsal.Desk
import DeviceLink.Rehearsal.Play
import DeviceLink.Proofs.Surroundings.Acts
import DeviceLink.Proofs.Surroundings.Trace
import DeviceLink.Proofs.Watcher.Waiting
import DeviceLink.Proofs.Connection.Quiet
import DeviceLink.Proofs.Tunnel.Walk
import DeviceLink.Proofs.Session.Starting
import DeviceLink.Proofs.Tunnel.Ledger
import DeviceLink.Proofs.Session.Connecting
import DeviceLink.Proofs.Session.Stopping
import DeviceLink.Proofs.Session.Accounting
import DeviceLink.Proofs.Session.Rollback
import DeviceLink.Proofs.Listener.Moves
import DeviceLink.Proofs.Listener.Turns
import DeviceLink.Proofs.Watcher.Moves
import DeviceLink.Proofs.Session.Scene
import DeviceLink.Proofs.Session.Unblocking
import DeviceLink.Proofs.Session.Scheduling
import DeviceLink.Proofs.Watcher.Steady
import DeviceLink.Proofs.Connection.Traffic
import DeviceLink.Proofs.Session.Linking
import DeviceLink.Proofs.Session.Standing
import DeviceLink.Proofs.Session.Agreement
import DeviceLink.Proofs.Session.Channels
import DeviceLink.Proofs.Surroundings.Clock
import DeviceLink.Proofs.Rehearsal.Clock
import DeviceLink.Proofs.Watcher.Rest
import DeviceLink.Proofs.Watcher.Deadline
import DeviceLink.Proofs.Session.Clearing
import DeviceLink.Proofs.Session.Watchdog
import DeviceLink.Proofs.Activation.Answer
import DeviceLink.Proofs.Surroundings.Parallel
import DeviceLink.Proofs.Surroundings.Demands
import DeviceLink.Proofs.Watcher.Parallel
import DeviceLink.Proofs.Session.Parallel
import DeviceLink.Proofs.Session.Indifference
import DeviceLink.Proofs.Bridge.Encoding
import DeviceLink.Proofs.Bridge.Tool
import DeviceLink.Proofs.Session.Refinement
import DeviceLink.Proofs.Session.Directness
import DeviceLink.Proofs.Surroundings.Sockets
import DeviceLink.Proofs.Watcher.Gate
import DeviceLink.Proofs.Session.Course
import DeviceLink.Proofs.Session.Courses
import DeviceLink.Proofs.Session.Order
import DeviceLink.Proofs.Session.Sockets
import DeviceLink.Proofs.Tunnel.Selection
import DeviceLink.Proofs.Session.Retrying
import DeviceLink.Proofs.Text.Stops
import DeviceLink.Proofs.Activation.Target
import DeviceLink.Proofs.Session.Reaping
import DeviceLink.Proofs.Session.Tracking
import DeviceLink.Proofs.Program.Exits
import DeviceLink.Proofs.Text.Utf8
import DeviceLink.Proofs.Text.Decimal
import DeviceLink.Proofs.Agent.Orders
import DeviceLink.Proofs.Url.Pieces
import DeviceLink.Proofs.Agent.Segments
import DeviceLink.Proofs.Text.Lossy
import DeviceLink.Proofs.Activation.Content
import DeviceLink.Proofs.Text.Hexadecimal
import DeviceLink.Proofs.Url.Escapes
import DeviceLink.Proofs.Url.Addresses
import DeviceLink.Proofs.Url.Hosts
import DeviceLink.Proofs.Toml.Escapes
import DeviceLink.Proofs.Toml.Texts
import DeviceLink.Proofs.Toml.Values
import DeviceLink.Proofs.Toml.Lines
import DeviceLink.Proofs.Toml.Document
import DeviceLink.Proofs.Files.Writing
import DeviceLink.Proofs.Configuration.Ports
import DeviceLink.Proofs.Configuration.Fields
import DeviceLink.Proofs.Configuration.Text
import DeviceLink.Proofs.Configuration.RoundTrip
import DeviceLink.Proofs.Url.Authority
import DeviceLink.Proofs.Url.Paths
import DeviceLink.Proofs.Activation.Below
import DeviceLink.Proofs.Port.Grammar
import DeviceLink.Proofs.Tunnel.Listening
import DeviceLink.Proofs.Session.GivingUp
import DeviceLink.Proofs.Connection.Budget
import DeviceLink.Proofs.Number.Rounding
import DeviceLink.Proofs.Text.ByteSize
import DeviceLink.Proofs.Text.Splitting
import DeviceLink.Proofs.Configuration.Keys
import DeviceLink.Proofs.Program.Settings
import DeviceLink.Proofs.CommandLine.LongForm
import DeviceLink.Proofs.CommandLine.Accounts
import DeviceLink.Proofs.RunOptions.Givens
import DeviceLink.Proofs.RunOptions.Reading
import DeviceLink.Proofs.Program.Invocation
import DeviceLink.Proofs.RunOptions.Overriding
