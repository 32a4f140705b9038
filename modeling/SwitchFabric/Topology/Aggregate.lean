import SwitchFabric.Cluster.Config
import SwitchFabric.Topology.Views

/-!
# From a cluster definition to its views

Port channels come from the bonds: within a template, the port lists of the slaves that are wired to
one switch are read side by side, and the first ports of all lists form a group, then the second
ones. VLANs come from the VLAN interfaces of the templates, MTUs from the interfaces that are wired, and
MLAG pairs from the links between peers.
-/

namespace SwitchFabric.Cluster

/-- The lists taken at each index up to the end of the shortest. -/
def transposed (lists : List (List Nat)) : List (List Nat) :=
  let length := ((lists.map List.length).min?).getD 0
  (List.range length).map fun i => lists.filterMap (·[i]?)

/-- The value at `k` with more items behind it. -/
def extended [OrderedKey κ] [DecidableEq κ] (k : κ) (items : List α) (m : SortedMap κ (List α)) :
    SortedMap κ (List α) :=
  m.update k fun before => before.getD [] ++ items

/-- The map of maps with more items behind the ones at `j` and `k`. -/
def extended₂ [OrderedKey ι] [DecidableEq ι] [OrderedKey κ] [DecidableEq κ] (j : ι) (k : κ)
    (items : List α) (m : SortedMap ι (SortedMap κ (List α))) : SortedMap ι (SortedMap κ (List α)) :=
  m.update j fun before => extended k items (before.getD .empty)

/-! ## Port channels -/

/-- The port lists of a bond's slaves in a template, by the switch that they are wired to. -/
def slavePorts (slaves : List String) (t : NodeTemplate) : SortedMap String (List (List Nat)) :=
  (t.bindings.filter fun b => slaves.contains b.interface).foldl
    (fun m b => extended b.switch [b.ports] m) .empty

/-- The port channels of a bond, a template and a master, by switch. -/
abbrev Grouped := SortedMap (String × String × String) (SortedMap String (List PortGroup))

/-- File a bond's port channels in a template under the masters of the switches. -/
def groupBond (c : Cluster) (bond : String) (slaves : List String) (grouped : Grouped)
    (t : NodeTemplate) : Grouped :=
  if t.hasInterface bond then
    (slavePorts slaves t).entries.foldl (fun grouped (switch, lists) =>
      let master := c.masterOf switch (c.mlagPeer switch)
      extended₂ (bond, t.label, master) switch ((transposed lists).filterMap PortGroup.ofPorts)
        grouped) grouped
  else grouped

/-- A port channel spans the master and its peer at most, and with two members both have as many
groups. -/
def checkGroup (g : ChannelGroup) : Except ConfigError Unit :=
  match g.members.size with
  | 0 | 1 => .ok ()
  | 2 =>
    let peer := g.members.entries.find? (·.1 != g.master)
    match g.members.get? g.master, peer with
    | some own, some (label, other) =>
      if own.length == other.length then .ok ()
      else .error (.misalignedGroups g.bond g.template g.master label)
    | _, _ =>
      .error (.misalignedGroups g.bond g.template g.master ((peer.map Prod.fst).getD ""))
  | count => .error (.mlagMembership g.bond g.template g.master count)

/-- The port channels of all bonds, by bond, template and master. -/
def channelGroups (c : Cluster) : Except ConfigError (List ChannelGroup) := do
  let grouped := c.bondSlaves.entries.foldl
    (fun grouped (bond, slaves) => c.templates.foldl (c.groupBond bond slaves) grouped) .empty
  let groups := grouped.entries.map fun ((bond, template, master), members) =>
    (⟨bond, template, master, members⟩ : ChannelGroup)
  groups.forM checkGroup
  return groups

/-! ## VLANs and MTUs -/

/-- The interfaces whose ports carry the VLAN of a VLAN interface: itself and the slaves of its raw
device. The raw device is not one of them. -/
def vlanMembers (c : Cluster) (i : Interface) (d : VlanDevice) : List String :=
  i.label :: c.slavesOf d.rawDevice

/-- Add the ports that carry the VLAN of one of a template's interfaces, if it is a VLAN interface. -/
def addVlan (c : Cluster) (t : NodeTemplate) (found : VlanPorts) (label : String) :
    Except ConfigError VlanPorts := do
  let some i := c.interface? label | return found
  let some d ← i.vlanDevice | return found
  let members := c.vlanMembers i d
  return (t.bindings.filter fun b => members.contains b.interface).foldl
    (fun found b => extended₂ b.switch d.vlan b.ports found) found

/-- The ports that carry each VLAN, a port once for every interface that brings it the VLAN. -/
def vlanPorts (c : Cluster) : Except ConfigError VlanPorts :=
  c.templates.foldlM (fun found t => t.interfaces.foldlM (c.addVlan t) found) .empty

/-- Add one VLAN to a port, where it is named once. -/
def addOnce (vlan : VlanId) (vlans : SortedMap Nat (List VlanId)) (port : Nat) :
    SortedMap Nat (List VlanId) :=
  vlans.update port fun before =>
    let before := before.getD []
    if before.contains vlan then before else before ++ [vlan]

/-- The VLANs of each port, in ascending order and each once. -/
def vlansByPort (vlans : SortedMap VlanId (List Nat)) : SortedMap Nat (List VlanId) :=
  vlans.entries.foldl (fun m (vlan, ports) => ports.foldl (addOnce vlan) m) .empty

/-- The VLANs of each port, from the ports of each VLAN. -/
def portVlans (c : Cluster) : Except ConfigError PortVlans := do
  let found ← c.vlanPorts
  return .ofList (found.entries.map fun (switch, vlans) => (switch, vlansByPort vlans))

/-- The ports with an explicit MTU. -/
def mtuPorts (c : Cluster) : MtuPorts :=
  (c.templates.flatMap (·.bindings)).foldl (fun found b =>
    match (c.interface? b.interface).bind Interface.mtu with
    | some mtu => extended₂ b.switch mtu b.ports found
    | none => found) .empty

/-! ## MLAG pairs -/

/-- The settings of the inter-peer link that a switch has to its peer. -/
structure IplLink where
  vlan : VlanId
  ports : PortGroup
  cidr : IpPrefix
  vip : Option IpAddress

/-- A field that the inter-peer link must have. -/
def needed (s : SwitchRecord) (peer field : String) : Option α → Except ConfigError α
  | some a => .ok a
  | none => .error (.incompleteMlagLink s.label peer field)

/-- A prefix of an inter-peer link. -/
def linkPrefix (address : IpAddress) (length : Nat) : Except ConfigError IpPrefix :=
  (IpPrefix.ofAddress address length).mapError .invalidAddress

/-- The inter-peer link of a switch: its first link to the peer, with all settings. -/
def iplLink (s : SwitchRecord) (peer : String) : Except ConfigError IplLink := do
  match s.links.find? (·.target == peer) with
  | none => .error (.missingMlagLink s.label peer)
  | some l =>
    let vlan ← needed s peer "vlan" l.vlan
    let ports ← needed s peer "ports" (PortGroup.ofPorts l.ports)
    let ip ← needed s peer "ip" l.ip
    let length ← needed s peer "prefix" l.length
    return ⟨vlan, ports, ← linkPrefix ip length, l.vip⟩

/-- The virtual address of a pair, in the management network. -/
def mlagVip (c : Cluster) : Option IpAddress → Except ConfigError (Option IpPrefix)
  | none => .ok none
  | some vip => do return some (← linkPrefix vip (← c.mgmtLength))

/-- The pair that a switch is the master of. -/
def mlagPairOf (c : Cluster) (s : SwitchRecord) : Except ConfigError (Option MlagPair) := do
  let some label := s.mlagPeer | return none
  if c.masterOf s.label (some label) != s.label then return none
  match c.switch? label with
  | none => .error (.unknownSwitch label ("mlag_peer of " ++ s.label))
  | some peer =>
    let own ← iplLink s label
    let other ← iplLink peer s.label
    let vip ← c.mlagVip other.vip
    return some
      ⟨⟨s.label, own.vlan, none, own.ports, own.cidr, other.cidr.address⟩,
       ⟨peer.label, other.vlan, vip, other.ports, other.cidr, own.cidr.address⟩⟩

/-- The MLAG pairs, in the order of their masters in the definition. -/
def mlagPairs (c : Cluster) : Except ConfigError (List MlagPair) := do
  return (← c.switches.mapM c.mlagPairOf).filterMap id

/-- All views. -/
def topology (c : Cluster) : Except ConfigError Topology := do
  let portVlans ← c.portVlans
  let groups ← c.channelGroups
  let pairs ← c.mlagPairs
  return ⟨portVlans, c.mtuPorts, groups, pairs⟩

end SwitchFabric.Cluster
