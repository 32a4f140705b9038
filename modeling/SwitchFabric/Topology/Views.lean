import SwitchFabric.Port
import SwitchFabric.SortedMap
import SwitchFabric.Switch.Mlag

/-!
# Views of a fabric

What the passes over a fabric work from: the VLANs and the MTU of each port, the groups of ports that
form port channels, and the MLAG pairs.
-/

namespace SwitchFabric

/-- The ports bundled into one port channel, of which there is at least one. -/
structure PortGroup where
  ports : List Nat
  nonempty : ports ≠ []
  deriving DecidableEq

namespace PortGroup

/-- The group of a list of ports, if that is not empty. -/
def ofPorts (ports : List Nat) : Option PortGroup :=
  if h : ports ≠ [] then some ⟨ports, h⟩ else none

/-- The number of the port channel: the lowest port of the group. -/
def channel (g : PortGroup) : Nat := g.ports.min g.nonempty

end PortGroup

/-- The port channels of one bond in one node template, filed under the master of the switches
involved. With one member they are plain LAGs. With two they are MLAG port channels, which take their
numbers from the master's groups. -/
structure ChannelGroup where
  bond : String
  template : String
  master : String
  members : SortedMap String (List PortGroup)
  deriving DecidableEq

namespace ChannelGroup

/-- The port channels span two switches. -/
def isMlag (g : ChannelGroup) : Bool := g.members.size == 2

/-- The groups of the master. -/
def masterGroups (g : ChannelGroup) : List PortGroup := (g.members.get? g.master).getD []

/-- The number of the MLAG port channel at an index. -/
def mlagChannel (g : ChannelGroup) (index : Nat) : Option Nat :=
  (g.masterGroups[index]?).map PortGroup.channel

end ChannelGroup

/-- One member of an MLAG pair. -/
structure MlagMember where
  switch : String
  /-- The VLAN of the inter-peer link. -/
  vlan : VlanId
  /-- The virtual address with the length of the management network; none on the master. -/
  vip : Option IpPrefix
  /-- The ports of the inter-peer link. -/
  ports : PortGroup
  /-- The member's address on the link. -/
  cidr : IpPrefix
  /-- The partner's address on the link. -/
  peerIp : IpAddress
  deriving DecidableEq

/-- The driver's parameters for a member, given the channel the pair has chosen. -/
def MlagMember.params (m : MlagMember) (channel : Nat) : MlagParams :=
  ⟨m.vlan, channel, m.cidr, m.peerIp, m.vip, m.ports.ports⟩

/-- Two switches that work as one, and which of them is the master. -/
structure MlagPair where
  master : MlagMember
  peer : MlagMember
  deriving DecidableEq

namespace MlagPair

/-- The members, master first. -/
def members (p : MlagPair) : List MlagMember := [p.master, p.peer]

/-- The port channel of the inter-peer link on both members: the master's lowest port of the link. -/
def iplChannel (p : MlagPair) : Nat := p.master.ports.channel

end MlagPair

/-- The VLANs trunked onto each port of each switch. Those that come from a definition ascend. -/
abbrev PortVlans := SortedMap String (SortedMap Nat (List VlanId))

/-- The ports that carry each VLAN, by switch. -/
abbrev VlanPorts := SortedMap String (SortedMap VlanId (List Nat))

/-- The ports with each explicit MTU, by switch. -/
abbrev MtuPorts := SortedMap String (SortedMap Mtu (List Nat))

/-- Everything that the passes work from. -/
structure Topology where
  portVlans : PortVlans
  mtuPorts : MtuPorts
  channelGroups : List ChannelGroup
  mlagPairs : List MlagPair
  deriving DecidableEq

namespace Topology

/-- Nothing is wired. -/
def empty : Topology := ⟨.empty, .empty, [], []⟩

/-- The labels of all switches that the views mention, in order. -/
def switches (t : Topology) : List String :=
  let mentioned := t.portVlans.keys ++ t.mtuPorts.keys ++
    t.channelGroups.flatMap (·.members.keys) ++
    t.mlagPairs.flatMap fun p => p.members.map (·.switch)
  (SortedMap.ofList (mentioned.map fun label => (label, ()))).keys

/-- The VLANs trunked onto a port. -/
def vlansOf (t : Topology) (switch : String) (port : Nat) : List VlanId :=
  ((t.portVlans.get? switch).bind (·.get? port)).getD []

/-- The explicit MTU of a port: the smallest one it is listed under. -/
def mtuOf (t : Topology) (switch : String) (port : Nat) : Option Mtu :=
  (t.mtuPorts.get? switch).bind fun mtus =>
    (mtus.entries.find? fun e => e.2.contains port).map Prod.fst

end Topology

end SwitchFabric
