import SwitchFabric.Text.CodePoints
import SwitchFabric.Text.Digit
import SwitchFabric.Text.Word
import SwitchFabric.Text.Printable
import SwitchFabric.Text.LetterCase
import SwitchFabric.Text.Blank
import SwitchFabric.Text.Decimal
import SwitchFabric.Text.Literal
import SwitchFabric.Text.Utf8
import SwitchFabric.SortedMap
import SwitchFabric.Text.Split
import SwitchFabric.ValueError
import SwitchFabric.Vlan
import SwitchFabric.Port
import SwitchFabric.Address
import SwitchFabric.Yaml.Cursor
import SwitchFabric.Yaml.Gap
import SwitchFabric.Yaml.Plain
import SwitchFabric.Yaml.Quoted
import SwitchFabric.Yaml.Block
import SwitchFabric.Yaml.Token
import SwitchFabric.Yaml.Token.Lexer
import SwitchFabric.Yaml.Event
import SwitchFabric.Yaml.Double
import SwitchFabric.Yaml.Resolve
import SwitchFabric.Yaml.Value
import SwitchFabric.Yaml.Document
import SwitchFabric.Yaml.Reader
import SwitchFabric.Switch.Access
import SwitchFabric.Cluster.Error
import SwitchFabric.Cluster.Config
import SwitchFabric.Cluster.Check
import SwitchFabric.Cluster.Reader
import SwitchFabric.Cluster.Dump
import SwitchFabric.Yaml.Printer
import SwitchFabric.Switch.Mlag
import SwitchFabric.Topology.Views
import SwitchFabric.Topology.Aggregate
import SwitchFabric.Topology.Dump
import SwitchFabric.Cluster.Builder
import SwitchFabric.Switch.Error
import SwitchFabric.Switch.Call
import SwitchFabric.Prompt
import SwitchFabric.Pass.Basic
import SwitchFabric.Pass.Configure
import SwitchFabric.Recording
import SwitchFabric.Verify
import SwitchFabric.Shell.Quote
import SwitchFabric.Shell.Syntax
import SwitchFabric.Shell.Utilities
import SwitchFabric.Shell.Run
import SwitchFabric.Text.Search
import SwitchFabric.Onyx.Command
import SwitchFabric.Onyx.Show
import SwitchFabric.Shell.Exec
import SwitchFabric.Machine.Files
import SwitchFabric.Machine.Network
import SwitchFabric.Delivery
import SwitchFabric.Onyx.Moves
import SwitchFabric.Onyx.Driver
import SwitchFabric.Registry
import SwitchFabric.Failure
import SwitchFabric.Arguments
import SwitchFabric.Program
import SwitchFabric.Main
import SwitchFabric.Proofs.Pass.Plan
import SwitchFabric.Proofs.Recording.Calls
import SwitchFabric.Proofs.Recording.FailStop
import SwitchFabric.Proofs.Pass.Consent
import SwitchFabric.Proofs.Switch.State
import SwitchFabric.Proofs.Cluster.Peers
import SwitchFabric.Proofs.Topology.Members
import SwitchFabric.Proofs.Recording.Undo
import SwitchFabric.Proofs.Topology.Channels
import SwitchFabric.Proofs.Recording.ChannelNumbers
import SwitchFabric.Proofs.Topology.Pairs
import SwitchFabric.Proofs.Pass.Effects
import SwitchFabric.Proofs.Switch.Carried
import SwitchFabric.Proofs.Recording.CarriedVlans
import SwitchFabric.Proofs.Shell.Words
import SwitchFabric.Proofs.Delivery
import SwitchFabric.Proofs.Onyx.Commands
import SwitchFabric.Proofs.Onyx.Modes
import SwitchFabric.Proofs.Recording.Blind
import SwitchFabric.Proofs.Registry
import SwitchFabric.Proofs.Onyx.Collecting
import SwitchFabric.Proofs.Topology.Masters
import SwitchFabric.Proofs.Topology.Bundles
import SwitchFabric.Proofs.Pass.ChannelMtus
import SwitchFabric.Proofs.Pass.Guards
import SwitchFabric.Proofs.Recording.MlagCalls
import SwitchFabric.Proofs.Pass.Completed
import SwitchFabric.Proofs.Recording.Reconfiguring
import SwitchFabric.Proofs.Recording.BringUp
import SwitchFabric.Proofs.Pass.AlignedChannels
import SwitchFabric.Proofs.Shell.Literal
import SwitchFabric.Proofs.Topology.Faults
import SwitchFabric.Proofs.Pass.Drivers
import SwitchFabric.Proofs.Exchanges
import SwitchFabric.Proofs.Onyx.Exchanges
import SwitchFabric.Proofs.Onyx.Shutdowns
import SwitchFabric.Proofs.Recording.PortMtus
import SwitchFabric.Proofs.Program
import SwitchFabric.Proofs.Cluster.Schemas
import SwitchFabric.Proofs.Pass.Share
import SwitchFabric.Proofs.Recording.Isolation
import SwitchFabric.Proofs.Address
import SwitchFabric.Proofs.Yaml.Numbers
import SwitchFabric.Proofs.Yaml.Spelling
import SwitchFabric.Proofs.Yaml.Uninterpreted
import SwitchFabric.Proofs.Yaml.Ensures
import SwitchFabric.Proofs.Cluster.Reload
import SwitchFabric.Proofs.Text.Search
import SwitchFabric.Proofs.Text.Columns
import SwitchFabric.Proofs.Onyx.Summary
import SwitchFabric.Proofs.Onyx.Dialogues
import SwitchFabric.Proofs.Onyx.Passwords
import SwitchFabric.Proofs.Onyx.PortTable
import SwitchFabric.Proofs.Onyx.ReadBack
import SwitchFabric.Proofs.Onyx.Teardown
import SwitchFabric.Proofs.Topology.PortVlans
import SwitchFabric.Proofs.Topology.Groups
import SwitchFabric.Proofs.Recording.VlanCalls
import SwitchFabric.Proofs.Text.Lines
import SwitchFabric.Proofs.Prompt
import SwitchFabric.Proofs.Vlan
import SwitchFabric.Proofs.Onyx.Link
import SwitchFabric.Proofs.Prefix
import SwitchFabric.Proofs.Verify
