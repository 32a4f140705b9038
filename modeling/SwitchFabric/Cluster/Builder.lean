import SwitchFabric.Topology.Aggregate

/-!
# Building cluster definitions

Definitions put together step by step, and the scenarios they are used for: VLANs on single ports, a
LAG, and an MLAG pair. Switches are numbered in the management network and driven in passive mode.
-/

namespace SwitchFabric

/-- One side of an inter-peer link, as texts and numbers that are not checked yet. -/
structure IplSide where
  ports : List Nat
  vlan : Nat
  ip : String
  length : Nat
  vip : Option String

/-- The link to a switch. What is no VLAN or address is left out. -/
def IplSide.link (s : IplSide) (target : String) : Link :=
  { target := target, ports := s.ports
    vlan := (VlanId.ofNumber s.vlan).toOption
    ip := (IpAddress.parse s.ip.toList).toOption
    length := some s.length
    vip := s.vip.bind fun vip => (IpAddress.parse vip.toList).toOption }

namespace Interface

/-- A device of its own, named as the interface is. -/
def physical (label : String) : Interface := { named label with iface := some label }

/-- A bond that runs LACP with the switch. -/
def bond (label : String) : Interface := { physical label with bondMode := some "802.3ad" }

/-- A device that a bond takes in. -/
def bondSlave (label master : String) : Interface :=
  { physical label with bondMaster := some master }

/-- The VLAN interface of a raw device, with the VLAN behind a dot in its name. -/
def ofVlan (raw : String) (vlan : Nat) : Interface :=
  { physical (raw ++ "." ++ Text.decimal vlan) with vlanRawDevice := some raw }

/-- Give an interface an explicit MTU. -/
def withMtu (i : Interface) (mtu : Nat) : Interface := { i with mtuValue := some mtu }

end Interface

/-- `l` with the first element that satisfies `p` changed. -/
def modifyFirst (p : α → Bool) (f : α → α) : List α → List α
  | [] => []
  | a :: as => if p a then f a :: as else a :: modifyFirst p f as

namespace Cluster

/-- A cluster with one management network and nothing else. -/
def bare : Cluster :=
  { empty with mgmtNetworks := [⟨some "eth1", some "192.168.5.2", some 24⟩] }

/-- Give the first management network a prefix length. -/
def withMgmtLength (length : Nat) (c : Cluster) : Cluster :=
  match c.mgmtNetworks with
  | [] => c
  | m :: ms => { c with mgmtNetworks := { m with length := some length } :: ms }

/-- Add a switch. -/
def withSwitch (label : String) (c : Cluster) : Cluster :=
  let host := "192.168.5." ++ Text.decimal (20 + c.switches.length)
  let added : SwitchRecord :=
    ⟨label, "mellanox", host, some "admin", none, .passive, none, none, false, []⟩
  { c with switches := c.switches ++ [added] }

/-- Name the partner of a switch and link it to the partner. -/
def withPeer (label partner : String) (side : IplSide) (master : Bool) (c : Cluster) : Cluster :=
  let paired (s : SwitchRecord) : SwitchRecord :=
    { s with mlagPeer := some partner, mlagMaster := master, links := s.links ++ [side.link partner] }
  { c with switches := modifyFirst (·.label == label) paired c.switches }

/-- Pair two switches; the first is flagged as master. -/
def withMlagPair (master : String) (masterSide : IplSide) (peer : String) (peerSide : IplSide)
    (c : Cluster) : Cluster :=
  (c.withPeer master peer masterSide true).withPeer peer master peerSide false

/-- Describe one more interface of the nodes. -/
def withInterface (i : Interface) (c : Cluster) : Cluster :=
  { c with interfaces := c.interfaces ++ [i] }

/-- Add a template that wires interfaces to switch ports. It lists each wired interface once. -/
def withTemplate (label : String) (bindings : List Binding) (c : Cluster) : Cluster :=
  let interfaces := bindings.foldl (fun labels b =>
    if labels.contains b.interface then labels else labels ++ [b.interface]) []
  { c with templates := c.templates ++ [⟨label, interfaces, bindings⟩] }

/-- List an interface on a template without wiring it. -/
def withTemplateInterface (template label : String) (c : Cluster) : Cluster :=
  let listed (t : NodeTemplate) : NodeTemplate := { t with interfaces := t.interfaces ++ [label] }
  { c with templates := modifyFirst (·.label == template) listed c.templates }

end Cluster

/-! ## Scenarios -/

/-- The clusters that are kept ready. -/
inductive Scenario where
  | singleVlan
  | sharedVlans
  | singleLag
  | mlagPair
  deriving DecidableEq

/-- The cluster of a scenario: one VLAN on one port; two VLANs on ports whose raw device has an MTU; a
LAG of two ports; and a bond that is split across an MLAG pair. -/
def Scenario.cluster : Scenario → Cluster
  | singleVlan =>
    Cluster.bare.withSwitch "data_1"
      |>.withInterface (.physical "eth0")
      |>.withInterface (.ofVlan "eth0" 100)
      |>.withTemplate "compute" [⟨"data_1", "eth0.100", [5]⟩]
  | sharedVlans =>
    Cluster.bare.withSwitch "data_1"
      |>.withInterface ((Interface.physical "eth0").withMtu 9000)
      |>.withInterface (.ofVlan "eth0" 20)
      |>.withInterface (.ofVlan "eth0" 30)
      |>.withTemplate "compute" [
        ⟨"data_1", "eth0", [5, 6]⟩, ⟨"data_1", "eth0.20", [5, 6]⟩, ⟨"data_1", "eth0.30", [5, 6]⟩]
  | singleLag =>
    Cluster.bare.withSwitch "data_1"
      |>.withInterface (.bond "bond0")
      |>.withInterface (.bondSlave "eth10" "bond0")
      |>.withInterface (.bondSlave "eth11" "bond0")
      |>.withInterface (.ofVlan "bond0" 20)
      |>.withTemplate "compute" [⟨"data_1", "eth10", [10]⟩, ⟨"data_1", "eth11", [11]⟩]
      |>.withTemplateInterface "compute" "bond0"
      |>.withTemplateInterface "compute" "bond0.20"
  | mlagPair =>
    Cluster.bare.withSwitch "data_1"
      |>.withSwitch "data_2"
      |>.withMlagPair "data_1" ⟨[29, 30], 4000, "10.0.0.1", 30, none⟩
        "data_2" ⟨[29, 30], 4000, "10.0.0.2", 30, some "192.168.5.254"⟩
      |>.withInterface (.bond "bond0")
      |>.withInterface ((Interface.bondSlave "eth10" "bond0").withMtu 9000)
      |>.withInterface ((Interface.bondSlave "eth11" "bond0").withMtu 9000)
      |>.withInterface (.ofVlan "bond0" 20)
      |>.withTemplate "compute" [⟨"data_1", "eth10", [7, 8]⟩, ⟨"data_2", "eth11", [3, 4]⟩]
      |>.withTemplateInterface "compute" "bond0"
      |>.withTemplateInterface "compute" "bond0.20"

/-- The views of a scenario's cluster. -/
def Scenario.topology (s : Scenario) : Topology := s.cluster.topology.toOption.getD .empty

theorem Scenario.topology_cluster (s : Scenario) : s.cluster.topology = .ok s.topology := by
  cases s <;> rfl

end SwitchFabric
