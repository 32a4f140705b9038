import SwitchFabric.Pass.Basic

/-!
# The steps that configure and deconfigure a fabric

Configuring goes from VLANs over MTUs and MLAG to port channels. Deconfiguring goes back over port
channels, MLAG, VLANs and MTUs.
-/

namespace SwitchFabric.Topology

/-! ## Configuring -/

/-- The VLANs of a list that are not among those seen, each at its first place. -/
def newVlans (seen : List VlanId) : List VlanId → List VlanId
  | [] => []
  | v :: vs => if seen.contains v then newVlans seen vs else v :: newVlans (v :: seen) vs

/-- Trunk VLANs onto ports, and create each VLAN before a port first carries it. -/
def trunkPorts (switch : String) (created : List VlanId) : List (Nat × List VlanId) → List Step
  | [] => []
  | (port, vlans) :: ports =>
    let new := newVlans created vlans
    new.map (fun v => .act switch (.createVlan v)) ++
      .act switch (.setSwitchportMode port .trunk) ::
      .act switch (.addVlansToPort port vlans) :: trunkPorts switch (created ++ new) ports

/-- The VLANs of all switches, each switch by itself. -/
def configureVlans (t : Topology) : List Step :=
  t.portVlans.entries.flatMap fun (switch, ports) => trunkPorts switch [] ports.entries

/-- One call for each port under each MTU. The MTUs of a switch ascend, so the largest stays on a
port. -/
def configureMtus (t : Topology) : List Step :=
  t.mtuPorts.entries.flatMap fun (switch, mtus) =>
    mtus.entries.flatMap fun (mtu, ports) =>
      ports.map fun port => .act switch (.setMtuForPort port mtu)

/-- Configure MLAG on the members that have none, then enable it on the members that have it by now. -/
def configurePair (p : MlagPair) : List Step :=
  p.members.map (fun m => .whenMlag m.switch false [.configureMlag (m.params p.iplChannel)]) ++
    p.members.map fun m => .whenMlag m.switch true [.enableMlag]

/-- MLAG on all pairs, one pair after the other. -/
def configureMlag (t : Topology) : List Step := t.mlagPairs.flatMap configurePair

/-- The number of the port channel of a member's group: the master's number at the same place. -/
def mlagChannelOf (g : ChannelGroup) (index : Nat) (ports : PortGroup) : Nat :=
  (g.mlagChannel index).getD ports.channel

/-- Make an MLAG port channel anew, with the VLANs and the MTU of the group's lowest port. -/
def configureMlagChannel (t : Topology) (switch : String) (channel : Nat) (ports : PortGroup) :
    List Action :=
  let vlans := t.vlansOf switch ports.channel
  [.removeMlagInterface channel, .createMlagInterface channel] ++
    (if vlans.isEmpty then [] else [.addVlansToMlagPortChannel channel vlans]) ++
    ((t.mtuOf switch ports.channel).map (.setMtuForMlagPortChannel channel)).toList ++
    ports.ports.map fun port => .bindPortToMlagInterface port channel

/-- Make a LAG anew, with the VLANs and the MTU of its lowest port. -/
def configureLagChannel (t : Topology) (switch : String) (ports : PortGroup) : List Action :=
  let channel := ports.channel
  let vlans := t.vlansOf switch channel
  [.removeChannelGroup channel, .createLagInterface channel] ++
    (if vlans.isEmpty then [] else [.addVlansToLagPortChannel channel vlans]) ++
    ((t.mtuOf switch channel).map (.setMtuForLagPortChannel channel)).toList ++
    [.bindPortsToLagInterface ports.ports channel]

/-- What is done for a member of a channel group. -/
def configureMember (t : Topology) (g : ChannelGroup) (switch : String) (groups : List PortGroup) :
    List Action :=
  if g.isMlag then
    groups.zipIdx.flatMap fun (ports, i) =>
      t.configureMlagChannel switch (mlagChannelOf g i ports) ports
  else groups.flatMap (t.configureLagChannel switch)

/-- The port channels of all groups, each group on one member after the other. -/
def configureChannels (t : Topology) : List Step :=
  t.channelGroups.flatMap fun g =>
    g.members.entries.flatMap fun (switch, groups) =>
      (t.configureMember g switch groups).map (.act switch)

/-- The pass that applies the topology. -/
def configure (t : Topology) : List Step :=
  t.configureVlans ++ t.configureMtus ++ t.configureMlag ++ t.configureChannels

/-! ## Deconfiguring -/

/-- Remove the port channels of a member; MLAG port channels only if the switch has MLAG. -/
def removeChannels (g : ChannelGroup) (switch : String) (groups : List PortGroup) : List Step :=
  if g.isMlag then
    [.whenMlag switch true (groups.zipIdx.map fun (ports, i) =>
      .removeMlagInterface (mlagChannelOf g i ports))]
  else groups.map fun ports => .act switch (.removeLagInterface ports.channel)

/-- The port channels are removed in the order in which they are made. -/
def deconfigureChannels (t : Topology) : List Step :=
  t.channelGroups.flatMap fun g =>
    g.members.entries.flatMap fun (switch, groups) => removeChannels g switch groups

/-- What the operator is asked before MLAG is taken down on a switch. -/
def teardownQuestion (switch : String) : String :=
  "About to deconfigure MLAG on switch " ++ switch ++
    "\nThis will stop all MLAG communication on all switch ports\nOK to deconfigure MLAG?"

/-- Each member of a pair is taken down only with the operator's consent. -/
def deconfigureMlag (t : Topology) : List Step :=
  t.mlagPairs.flatMap fun p => p.members.map fun m =>
    .withConsent m.switch (teardownQuestion m.switch) [.deconfigureMlag]

/-- Take each port off its VLANs and back to access mode. -/
def releasePorts (switch : String) (ports : List (Nat × List VlanId)) : List Step :=
  ports.flatMap fun (port, vlans) =>
    vlans.map (fun v => .act switch (.removeVlansFromPort port [v])) ++
      [.act switch (.setSwitchportMode port .access)]

/-- All ports are released first, since a VLAN is deleted when no port needs it any more. -/
def deconfigureVlans (t : Topology) : List Step :=
  (t.portVlans.entries.flatMap fun (switch, ports) => releasePorts switch ports.entries) ++
    t.portVlans.entries.flatMap fun (switch, ports) =>
      (newVlans [] ports.values.flatten).map fun v => .act switch (.deleteVlan v)

/-- Every port that was given an MTU is reset, once for each MTU. -/
def deconfigureMtus (t : Topology) : List Step :=
  t.mtuPorts.entries.flatMap fun (switch, mtus) =>
    mtus.values.flatten.map fun port => .act switch (.setMtuForPort port .reset)

/-- The pass that takes the topology back. -/
def deconfigure (t : Topology) : List Step :=
  t.deconfigureChannels ++ t.deconfigureMlag ++ t.deconfigureVlans ++ t.deconfigureMtus

end SwitchFabric.Topology
