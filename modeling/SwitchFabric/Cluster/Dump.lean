import SwitchFabric.Cluster.Config

/-!
# A cluster definition as data

The definition in the form of its document. Optional fields are left out when they are absent; lists,
the driver mode and the master flag are always there.
-/

namespace SwitchFabric

open Yaml (Value)

namespace Dump

/-- Fields with their values, of which absent ones are left out. -/
def record (fields : List (String × Option Value)) : Value :=
  .mapping (fields.filterMap fun (name, value) => value.map fun v => (.string name, v))

/-- Texts stand for themselves. -/
def text (s : String) : Value := .string s

/-- Numbers are written as integers, whatever their limit. -/
def number (n : Nat) : Value := .int n

/-- Ports are a list even if there is only one, or none. -/
def portList (l : List Nat) : Value := .sequence (l.map number)

/-- A VLAN is written as its number. -/
def vlanNumber (v : VlanId) : Value := number v.number

/-- An address is written as its text. -/
def addressText (a : IpAddress) : Value := text a.toText

end Dump

open Dump

/-- The fields of a management network, which are all optional. -/
def MgmtNetwork.toValue (m : MgmtNetwork) : Value :=
  record [
    ("device", m.device.map text),
    ("interface_ipaddr", m.interfaceAddress.map text),
    ("prefix", m.length.map number)]

/-- The fields of a link. Only a link between MLAG peers has those behind the ports. -/
def Link.toValue (l : Link) : Value :=
  record [
    ("target", text l.target),
    ("ports", portList l.ports),
    ("vlan", l.vlan.map vlanNumber),
    ("ip", l.ip.map addressText),
    ("prefix", l.length.map number),
    ("vip", l.vip.map addressText)]

/-- The fields of a switch, where the vendor is its class. -/
def SwitchRecord.toValue (s : SwitchRecord) : Value :=
  record [
    ("label", text s.label),
    ("class", text s.vendor),
    ("hostname", text s.host),
    ("userid", s.userid.map text),
    ("password", s.password.map text),
    ("mode", text s.mode.name),
    ("outfile", s.outfile.map text),
    ("mlag_peer", s.mlagPeer.map text),
    ("mlag_master", Value.bool s.mlagMaster),
    ("links", Value.sequence (s.links.map Link.toValue))]

/-- The fields of an interface in both schemas; those of the second are in upper case. -/
def Interface.toValue (i : Interface) : Value :=
  record [
    ("label", text i.label),
    ("iface", i.iface.map text),
    ("bond_mode", i.bondMode.map text),
    ("bond_master", i.bondMaster.map text),
    ("vlan_raw_device", i.vlanRawDevice.map text),
    ("mtu", i.mtuValue.map number),
    ("DEVICE", i.device.map text),
    ("BONDING_MASTER", i.bondingMaster),
    ("MASTER", i.master.map text),
    ("VLAN", i.vlan),
    ("MTU", i.deviceMtu.map number)]

/-- The fields of a binding, which are all there. -/
def Binding.toValue (b : Binding) : Value :=
  record [("switch", text b.switch), ("interface", text b.interface), ("ports", portList b.ports)]

/-- The fields of a template, with its bindings one level deeper. -/
def NodeTemplate.toValue (t : NodeTemplate) : Value :=
  record [
    ("label", text t.label),
    ("interfaces", Value.sequence (t.interfaces.map text)),
    ("physical_interfaces", record [("data", Value.sequence (t.bindings.map Binding.toValue))])]

/-- The whole definition, with the sections that the document nests. -/
def Cluster.toValue (c : Cluster) : Value :=
  record [
    ("deployer", record [("networks", record [("mgmt",
      Value.sequence (c.mgmtNetworks.map MgmtNetwork.toValue))])]),
    ("switches", record [("data", Value.sequence (c.switches.map SwitchRecord.toValue))]),
    ("interfaces", Value.sequence (c.interfaces.map Interface.toValue)),
    ("node_templates", Value.sequence (c.templates.map NodeTemplate.toValue))]

end SwitchFabric
