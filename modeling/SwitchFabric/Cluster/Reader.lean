import SwitchFabric.Cluster.Check
import SwitchFabric.Yaml.Reader

/-!
# Reading a cluster definition
-/

namespace SwitchFabric

namespace Cluster

open Yaml Yaml.Read

/-- A value of a network type, which a reader's value is turned into. -/
def converted (result : Except ValueError α) : Read α :=
  match result with
  | .ok a => return a
  | .error e => refuseFor e.message

/-- A number of 16 bits, which must be a VLAN as well. -/
def readVlan (n : Node) : Read VlanId := do
  converted (VlanId.ofNumber (← number Text.shortLimit n))

/-- A text that is an address of either family. -/
def readAddress (n : Node) : Read IpAddress := do converted (IpAddress.parse (← text n).toList)

/-- A port is any number that fits a word. -/
def readPort : Node → Read Nat := number Text.wordLimit

/-- A mode is one of two names. -/
def readMode : Node → Read DriverMode :=
  choice [(DriverMode.active.name, .active), (DriverMode.passive.name, .passive)]

/-- Uninterpreted values stand inside three collections, of at most 128 nested ones. -/
def readValue : Node → Read Value := value 125

/-- A management network, which may lack every field. -/
def readMgmtNetwork : Node → Read MgmtNetwork :=
  record [
    .optional "device" text fun v r => { r with device := v },
    .optional "interface_ipaddr" text fun v r => { r with interfaceAddress := v },
    .optional "prefix" (number Text.byteLimit) fun v r => { r with length := v }]
    ⟨none, none, none⟩

/-- A link, which must name its target. -/
def readLink : Node → Read Link :=
  record [
    .needed "target" text fun v r => { r with target := v },
    .defaulted "ports" (list readPort) fun v r => { r with ports := v },
    .optional "vlan" readVlan fun v r => { r with vlan := v },
    .optional "ip" readAddress fun v r => { r with ip := v },
    .optional "prefix" (number Text.byteLimit) fun v r => { r with length := v },
    .optional "vip" readAddress fun v r => { r with vip := v }]
    ⟨"", [], none, none, none, none⟩

/-- A switch, which must have a label, a class and a host name. It sends its commands unless it says
otherwise. -/
def readSwitch : Node → Read SwitchRecord :=
  record [
    .needed "label" text fun v r => { r with label := v },
    .needed "class" text fun v r => { r with vendor := v },
    .needed "hostname" text fun v r => { r with host := v },
    .optional "userid" text fun v r => { r with userid := v },
    .optional "password" text fun v r => { r with password := v },
    .defaulted "mode" readMode fun v r => { r with mode := v },
    .optional "outfile" text fun v r => { r with outfile := v },
    .optional "mlag_peer" text fun v r => { r with mlagPeer := v },
    .defaulted "mlag_master" flag fun v r => { r with mlagMaster := v },
    .defaulted "links" (list readLink) fun v r => { r with links := v }]
    ⟨"", "", "", none, none, .active, none, none, false, []⟩

/-- An interface, which must have a label. What marks a bond or a VLAN in the second schema may hold
any value. -/
def readInterface : Node → Read Interface :=
  record [
    .needed "label" text fun v r => { r with label := v },
    .optional "iface" text fun v r => { r with iface := v },
    .optional "bond_mode" text fun v r => { r with bondMode := v },
    .optional "bond_master" text fun v r => { r with bondMaster := v },
    .optional "vlan_raw_device" text fun v r => { r with vlanRawDevice := v },
    .optional "mtu" (number Text.wordLimit) fun v r => { r with mtuValue := v },
    .optional "DEVICE" text fun v r => { r with device := v },
    .optional "BONDING_MASTER" readValue fun v r => { r with bondingMaster := v },
    .optional "MASTER" text fun v r => { r with master := v },
    .optional "VLAN" readValue fun v r => { r with vlan := v },
    .optional "MTU" (number Text.wordLimit) fun v r => { r with deviceMtu := v }]
    (.named "")

/-- A binding, which must name a switch and an interface. -/
def readBinding : Node → Read Binding :=
  record [
    .needed "switch" text fun v r => { r with switch := v },
    .needed "interface" text fun v r => { r with interface := v },
    .defaulted "ports" (list readPort) fun v r => { r with ports := v }]
    ⟨"", "", []⟩

/-- A record with one field, which holds what is read. -/
def wrapped (name : String) (item : Node → Read α) (start : α) : Node → Read α :=
  record [.defaulted name item fun v _ => v] start

/-- A template, which must have a label. Its bindings stand in a section of their own. -/
def readTemplate : Node → Read NodeTemplate :=
  record [
    .needed "label" text fun v r => { r with label := v },
    .defaulted "interfaces" (list text) fun v r => { r with interfaces := v },
    .defaulted "physical_interfaces" (wrapped "data" (list readBinding) [])
      fun v r => { r with bindings := v }]
    ⟨"", [], []⟩

/-- A cluster, of which every section may be missing. -/
def readCluster : Node → Read Cluster :=
  record [
    .defaulted "deployer" (wrapped "networks" (wrapped "mgmt" (list readMgmtNetwork) []) [])
      fun v r => { r with mgmtNetworks := v },
    .defaulted "switches" (wrapped "data" (list readSwitch) [])
      fun v r => { r with switches := v },
    .defaulted "interfaces" (list readInterface) fun v r => { r with interfaces := v },
    .defaulted "node_templates" (list readTemplate) fun v r => { r with templates := v }]
    .empty

/-- The definition that a text holds, whether it is consistent or not. -/
def ofTextUnchecked (text : String) : Except ConfigError Cluster :=
  match readText readCluster text.toList with
  | .ok c => .ok c
  | .error fault => .error (.yaml fault.reason)

/-- The consistent definition that a text holds. -/
def ofText (text : String) : Except ConfigError Cluster := do
  let c ← ofTextUnchecked text
  c.check
  return c

end Cluster

end SwitchFabric
