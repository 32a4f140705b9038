import SwitchFabric.Port
import SwitchFabric.Switch.Mlag

/-!
# Onyx commands

The commands that configure an Onyx switch, and the show commands that read its state. Physical ports are
in slot 1. A port that carries tagged VLANs is in hybrid mode, and a port is shut down while its MTU
changes.
-/

namespace SwitchFabric.Onyx

/-- Lists the VLANs that exist. -/
def showVlan : String := "show vlan"

/-- Shows the mode and the VLANs of every port, a row each. -/
def showSwitchport : String := "show interfaces switchport"

/-- Shows the inter-peer link, if MLAG is configured. -/
def showMlag : String := "show mlag"

/-- Lists the port channels with their member ports. -/
def showChannels : String := "show interface port-channel summary"

/-- The command line that runs a command on the switch in configuration mode. -/
def remote (command : String) : String := "cli enable \"configure terminal\" \"" ++ command ++ "\""

/-- The two kinds of port channel: of one switch, and of both switches of a pair. -/
inductive Bundle where
  | lag
  | mlag
  deriving DecidableEq

/-- Opens every command on a physical port. -/
def ethernet (port : Nat) : String := "interface ethernet 1/" ++ Text.decimal port

/-- A port channel of a kind. -/
def Bundle.interface (kind : Bundle) (channel : Nat) : String :=
  match kind with
  | .lag => "interface port-channel " ++ Text.decimal channel
  | .mlag => "interface mlag-port-channel " ++ Text.decimal channel

/-! ## VLANs and ports -/

/-- A VLAN is made by entering its configuration. -/
def createVlan (v : VlanId) : String := "vlan " ++ v.toText

/-- Takes a VLAN off the switch. -/
def deleteVlan (v : VlanId) : String := "no vlan " ++ v.toText

/-- The word for a trunk is hybrid on this system. -/
def setMode (port : Nat) (mode : SwitchportMode) : String :=
  ethernet port ++ " switchport mode " ++
    match mode with
    | .trunk => "hybrid"
    | .access => "access"

/-- Lets a port carry the tagged frames of a VLAN. -/
def allowVlan (port : Nat) (v : VlanId) : String :=
  ethernet port ++ " switchport hybrid allowed-vlan add " ++ v.toText

/-- Takes a VLAN off a port, and leaves it on the switch. -/
def forbidVlan (port : Nat) (v : VlanId) : String :=
  ethernet port ++ " switchport hybrid allowed-vlan remove " ++ v.toText

/-- The word for an MTU, which is taken back by `no mtu`. -/
def mtuWord (m : Mtu) : String := if m.isReset then "no mtu" else "mtu " ++ Text.decimal m.value

/-- The port is down while its MTU changes. -/
def setMtu (port : Nat) (m : Mtu) : List String :=
  [ethernet port ++ " shutdown", ethernet port ++ " " ++ mtuWord m, ethernet port ++ " no shutdown"]

/-! ## Port channels -/

/-- A LAG is made by entering its configuration. -/
def createLag (channel : Nat) : String := Bundle.lag.interface channel

/-- Takes a LAG away by its number. -/
def removeLag (channel : Nat) : String := "no " ++ createLag channel

/-- Takes a port out of the LAG that it is in. -/
def unbindPort (port : Nat) : String := ethernet port ++ " no channel-group"

/-- Puts a port into a LAG, which runs LACP. -/
def bindToLag (port channel : Nat) : String :=
  ethernet port ++ " channel-group " ++ Text.decimal channel ++ " mode active"

/-- A port channel is made hybrid first, and then allowed one VLAN after the other. -/
def setChannelVlans (kind : Bundle) (channel : Nat) (vlans : List VlanId) : List String :=
  (kind.interface channel ++ " switchport mode hybrid") ::
    vlans.map fun v => kind.interface channel ++ " switchport hybrid allowed-vlan add " ++ v.toText

/-- The channel stays up while its MTU changes, which must be forced. -/
def setChannelMtu (kind : Bundle) (channel : Nat) (m : Mtu) : String :=
  kind.interface channel ++ " " ++ mtuWord m ++ " force"

/-- An MLAG port channel is an edge port that filters spanning tree messages. -/
def createMlagChannel (channel : Nat) : List String :=
  let interface := Bundle.mlag.interface channel
  [interface, interface ++ " spanning-tree port type edge",
    interface ++ " spanning-tree bpdufilter enable"]

/-- Takes away an MLAG port channel on one switch of the pair. -/
def removeMlagChannel (channel : Nat) : String := "no " ++ Bundle.mlag.interface channel

/-- Puts a port into an MLAG port channel, and brings the channel up. -/
def bindToMlag (port channel : Nat) : List String :=
  [ethernet port ++ " mlag-channel-group " ++ Text.decimal channel ++ " mode active",
    Bundle.mlag.interface channel ++ " no shutdown"]

/-! ## MLAG -/

/-- Takes MLAG out of its shutdown. -/
def enableMlag : String := "no mlag shutdown"

/-- MLAG is shut down before anything of it is removed. -/
def disableMlag : String := "mlag shutdown"

/-- The interface that has the address of the switch in a VLAN. -/
def vlanInterface (v : VlanId) : String := "interface vlan " ++ v.toText

/-- An address and its length, as an interface takes them. -/
def networkWords (p : IpPrefix) : String := p.address.toText ++ " /" ++ Text.decimal p.length

/-- The virtual address of a pair, which one of its members is given. -/
def setVip : Option IpPrefix → String
  | some vip => "mlag-vip mlag-vip-domain ip " ++ networkWords vip ++ " force"
  | none => "mlag-vip mlag-vip-domain"

/-- Bring MLAG up: the VLAN and the port channel of the inter-peer link, its ports, the addresses on it,
and the virtual address. -/
def configureMlag (p : MlagParams) : List String :=
  let channel := Bundle.lag.interface p.channel
  ["ip routing", "dcb priority-flow-control enable force", "protocol mlag", createVlan p.vlan,
    createLag p.channel] ++
  p.ports.map (fun port => bindToLag port p.channel) ++
  [channel ++ " ipl 1", channel ++ " dcb priority-flow-control mode on force", vlanInterface p.vlan,
    vlanInterface p.vlan ++ " ip address " ++ networkWords p.cidr,
    vlanInterface p.vlan ++ " ipl 1 peer-address " ++ p.peerIp.toText, setVip p.vip]

/-- The inter-peer link of a switch. -/
structure PeerLink where
  channel : Nat
  vlan : VlanId
  ports : List Nat
  deriving DecidableEq

/-- Take MLAG down on a switch that has an inter-peer link. -/
def deconfigureMlag (l : PeerLink) : List String :=
  let channel := Bundle.lag.interface l.channel
  [disableMlag, "no mlag-vip", vlanInterface l.vlan ++ " no ipl 1 peer-address",
    vlanInterface l.vlan ++ " no ip address", "no " ++ vlanInterface l.vlan,
    channel ++ " no dcb priority-flow-control mode force", channel ++ " no ipl 1"] ++
  l.ports.map unbindPort ++
  [removeLag l.channel, deleteVlan l.vlan, "no protocol mlag",
    "no dcb priority-flow-control enable force"]

end SwitchFabric.Onyx
