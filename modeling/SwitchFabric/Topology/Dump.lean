import SwitchFabric.Cluster.Dump
import SwitchFabric.Topology.Views

/-!
# Views as data
-/

namespace SwitchFabric

open Yaml (Value)
open Dump

namespace Dump

/-- A map as a mapping with its keys in order. -/
def map [OrderedKey κ] (key : κ → Value) (value : ν → Value) (m : SortedMap κ ν) : Value :=
  .mapping (m.entries.map fun (k, v) => (key k, value v))

/-- A value that may be null. -/
def nullable (value : α → Value) : Option α → Value
  | none => .null
  | some a => value a

/-- Fields that are always there. -/
def fields (l : List (String × Value)) : Value := record (l.map fun (name, v) => (name, some v))

end Dump

/-- By switch and port, the list of VLANs. -/
def PortVlans.toValue : PortVlans → Value :=
  map text (map number fun vlans => .sequence (vlans.map vlanNumber))

/-- By switch and VLAN, the list of ports. -/
def VlanPorts.toValue : VlanPorts → Value := map text (map vlanNumber portList)

/-- By switch and MTU, the list of ports. -/
def MtuPorts.toValue : MtuPorts → Value := map text (map (fun m => number m.value) portList)

/-- The fields of a channel group, with a list of lists of ports for each member. -/
def ChannelGroup.toValue (g : ChannelGroup) : Value :=
  fields [
    ("bond", text g.bond),
    ("template", text g.template),
    ("master_switch", text g.master),
    ("members", map text (fun groups => .sequence (groups.map fun p => portList p.ports)) g.members)]

/-- The fields of a member. A missing virtual address is null here, and not left out. -/
def MlagMember.toValue (m : MlagMember) : Value :=
  fields [
    ("switch", text m.switch),
    ("vlan", vlanNumber m.vlan),
    ("vip", nullable (fun p => text p.toText) m.vip),
    ("ports", portList m.ports.ports),
    ("cidr", text m.cidr.toText),
    ("peer_ip", addressText m.peerIp)]

/-- The pair by the roles of its members. -/
def MlagPair.toValue (p : MlagPair) : Value :=
  fields [("master", p.master.toValue), ("peer", p.peer.toValue)]

/-- All views, whether there is something in them or not. -/
def Topology.toValue (t : Topology) : Value :=
  fields [
    ("port_vlans", t.portVlans.toValue),
    ("mtu_list", t.mtuPorts.toValue),
    ("channel_groups", .sequence (t.channelGroups.map ChannelGroup.toValue)),
    ("mlag_pairs", .sequence (t.mlagPairs.map MlagPair.toValue))]

end SwitchFabric
