import LinkBus.Bus.Context
import LinkBus.Bus.Control
import LinkBus.Bus.Interface
import LinkBus.Bus.Method
import LinkBus.Bus.Presence
import LinkBus.Bus.Tree
import LinkBus.Bus.Value
import LinkBus.Changes
import LinkBus.CommandLine
import LinkBus.Config.Reader
import LinkBus.Config.Settings
import LinkBus.Config.Writer
import LinkBus.Device.Basic
import LinkBus.Device.Kind
import LinkBus.Device.Paths
import LinkBus.Device.State
import LinkBus.Duration
import LinkBus.Errno
import LinkBus.Event
import LinkBus.Failure
import LinkBus.Filter
import LinkBus.InterfaceName
import LinkBus.Inventory
import LinkBus.Ip
import LinkBus.Ip.Parser
import LinkBus.Json
import LinkBus.Main
import LinkBus.Netlink.Answer
import LinkBus.Netlink.Client
import LinkBus.Netlink.Closing
import LinkBus.Netlink.Exchange
import LinkBus.Netlink.Kernel
import LinkBus.Netlink.Reader
import LinkBus.Network
import LinkBus.Network.Devices
import LinkBus.Numbering
import LinkBus.Overview
import LinkBus.Pipeline
import LinkBus.Plan
import LinkBus.Property
import LinkBus.Record
import LinkBus.Resolver
import LinkBus.Service
import LinkBus.Table
import LinkBus.Table.Lookup
import LinkBus.Text.Blank
import LinkBus.Text.CharLiteral
import LinkBus.Text.Digits
import LinkBus.Text.Printable
import LinkBus.Text.Utf8
import LinkBus.Toml.Document
import LinkBus.Toml.Node
import LinkBus.Toml.Quoted
import LinkBus.Toml.Scalar
import LinkBus.Toml.Writer
import LinkBus.Uuid
import LinkBus.Uuid.Sha1
import LinkBus.Wire.Address
import LinkBus.Wire.Attribute
import LinkBus.Wire.Checked
import LinkBus.Wire.Cursor
import LinkBus.Wire.Frame
import LinkBus.Wire.Link
import LinkBus.Wire.Message
import LinkBus.Wire.Request
import LinkBus.Wire.Route
import LinkBus.Proofs.Inventory.Form
import LinkBus.Proofs.Inventory.Effect
import LinkBus.Proofs.Inventory.Replay
import LinkBus.Proofs.Inventory.Coverage
import LinkBus.Proofs.Network.Run
import LinkBus.Proofs.Network.Shown
import LinkBus.Proofs.Device.Paths
import LinkBus.Proofs.Device.Shape
import LinkBus.Proofs.Chronicle.Basic
import LinkBus.Proofs.Plan.Blocks
import LinkBus.Proofs.Plan.Objects
import LinkBus.Proofs.Plan.Arrivals
import LinkBus.Proofs.Chronicle.Objects
import LinkBus.Proofs.Property.Overlay
import LinkBus.Proofs.Plan.Mirror
import LinkBus.Proofs.Plan.Differences
import LinkBus.Proofs.Chronicle.Mirror
import LinkBus.Proofs.Numbering.Course
import LinkBus.Proofs.Numbering.Window
import LinkBus.Proofs.Network.Recreation
import LinkBus.Proofs.Inventory.Hiding
import LinkBus.Proofs.Network.Hiding
import LinkBus.Proofs.Chronicle.Hiding
import LinkBus.Proofs.Inventory.Interleaving
import LinkBus.Proofs.Inventory.Precision
import LinkBus.Proofs.Inventory.Belated
import LinkBus.Proofs.Inventory.History
import LinkBus.Proofs.Plan.News
import LinkBus.Proofs.Bus.Getters
import LinkBus.Proofs.Plan.Kept
import LinkBus.Proofs.Chronicle.Getters
import LinkBus.Proofs.Chronicle.Silence
import LinkBus.Proofs.Chronicle.Periods
import LinkBus.Proofs.Chronicle.States
import LinkBus.Proofs.Chronicle.Endings
import LinkBus.Proofs.Chronicle.Reasons
import LinkBus.Proofs.Inventory.Preference
import LinkBus.Proofs.Network.Defaults
import LinkBus.Proofs.Network.Connectivity
import LinkBus.Proofs.Device.Condition
import LinkBus.Proofs.Network.Addresses
import LinkBus.Proofs.Wire.Framing
import LinkBus.Proofs.Bus.Commands
import LinkBus.Proofs.Bus.Calls
import LinkBus.Proofs.Pipeline.Batches
import LinkBus.Proofs.Pipeline.Rounds
import LinkBus.Proofs.Pipeline.Schedule
import LinkBus.Proofs.Pipeline.Courses
import LinkBus.Proofs.Netlink.Client
import LinkBus.Proofs.Reader.Gapless
import LinkBus.Proofs.Reader.Journal
import LinkBus.Proofs.Reader.Passages
import LinkBus.Proofs.Wire.Truncation
import LinkBus.Proofs.Exchange.Hearing
import LinkBus.Proofs.Exchange.Moves
import LinkBus.Proofs.Exchange.Sound
import LinkBus.Proofs.Exchange.Answers
import LinkBus.Proofs.Exchange.Serving
import LinkBus.Proofs.Exchange.Sequential
import LinkBus.Proofs.Exchange.Closing
import LinkBus.Proofs.Text.Digits
import LinkBus.Proofs.Text.Utf8
import LinkBus.Proofs.Toml.Quoted
import LinkBus.Proofs.Toml.Values
import LinkBus.Proofs.Toml.Document
import LinkBus.Proofs.Config.Saving
import LinkBus.Proofs.Wire.Faults
import LinkBus.Proofs.Wire.Envelope
import LinkBus.Proofs.Netlink.Sequence
import LinkBus.Proofs.Netlink.Waiting
import LinkBus.Proofs.Netlink.Dumps
import LinkBus.Proofs.Netlink.Leftovers
import LinkBus.Proofs.Netlink.Statuses
import LinkBus.Proofs.Reader.Datagrams
import LinkBus.Proofs.Wire.Splicing
import LinkBus.Proofs.Wire.Unknown
import LinkBus.Proofs.Wire.Requests
import LinkBus.Proofs.Reader.Attempts
import LinkBus.Proofs.Reader.Recovery
import LinkBus.Proofs.Bus.Enabling
import LinkBus.Proofs.Device.Spelling
import LinkBus.Proofs.Bus.Lookups
import LinkBus.Proofs.Inventory.Membership
import LinkBus.Proofs.Text.Words
import LinkBus.Proofs.Resolver.Statements
import LinkBus.Proofs.Netlink.Circle
import LinkBus.Proofs.Numbering.Parking
import LinkBus.Proofs.Network.Observations
import LinkBus.Proofs.Pipeline.Timer
