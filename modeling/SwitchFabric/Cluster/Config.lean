import SwitchFabric.Cluster.Error
import SwitchFabric.SortedMap
import SwitchFabric.Switch.Access
import SwitchFabric.Yaml.Value

/-!
# Cluster definitions

The data switches of a cluster, the interfaces of its nodes, and the templates that wire nodes to
switch ports. An interface is described in one of two schemas, whose fields stand side by side.
-/

namespace SwitchFabric

/-- A management network of the deployer. -/
structure MgmtNetwork where
  device : Option String
  interfaceAddress : Option String
  length : Option Nat
  deriving DecidableEq

/-- A link between switches, with the settings of an inter-peer link if it is one. -/
structure Link where
  target : String
  ports : List Nat
  vlan : Option VlanId
  ip : Option IpAddress
  length : Option Nat
  vip : Option IpAddress
  deriving DecidableEq

/-- A data switch: how to reach it, and which switch it forms an MLAG pair with. -/
structure SwitchRecord where
  label : String
  vendor : String
  host : String
  userid : Option String
  password : Option String
  mode : DriverMode
  outfile : Option String
  mlagPeer : Option String
  mlagMaster : Bool
  links : List Link
  deriving DecidableEq

/-- An interface of the nodes. The fields from `device` on are those of the second schema. -/
structure Interface where
  label : String
  iface : Option String
  bondMode : Option String
  bondMaster : Option String
  vlanRawDevice : Option String
  mtuValue : Option Nat
  device : Option String
  bondingMaster : Option Yaml.Value
  master : Option String
  vlan : Option Yaml.Value
  deviceMtu : Option Nat
  deriving DecidableEq

/-- An interface of a template's nodes wired to a switch: one port for each node. -/
structure Binding where
  switch : String
  interface : String
  ports : List Nat
  deriving DecidableEq

/-- Nodes that are configured and wired alike. -/
structure NodeTemplate where
  label : String
  /-- The labels of the interfaces that the nodes configure. -/
  interfaces : List String
  bindings : List Binding
  deriving DecidableEq

/-- A whole definition, as far as the fabric depends on it. -/
structure Cluster where
  mgmtNetworks : List MgmtNetwork
  switches : List SwitchRecord
  interfaces : List Interface
  templates : List NodeTemplate
  deriving DecidableEq

/-! ## Interfaces -/

/-- A VLAN and the device that carries it. -/
structure VlanDevice where
  vlan : VlanId
  rawDevice : String
  deriving DecidableEq

namespace Interface

/-- An interface with a label and nothing else. -/
def named (label : String) : Interface :=
  ⟨label, none, none, none, none, none, none, none, none, none, none⟩

/-- The device name in either schema. -/
def deviceName (i : Interface) : Option String := i.iface.or i.device

/-- The interface bonds others, in either schema. -/
def isBond (i : Interface) : Bool := i.bondMode.isSome || i.bondingMaster.isSome

/-- The device name of the bond that the interface is a slave of. -/
def masterDevice (i : Interface) : Option String := i.bondMaster.or i.master

/-- The explicit MTU. Zero is none. -/
def mtu (i : Interface) : Option Mtu :=
  ((i.mtuValue.or i.deviceMtu).filter (· != 0)).map Mtu.mk

/-- The VLAN and the raw device of a VLAN interface. The VLAN stands behind the last dot of the device
name; the raw device is named, or stands before the dot. -/
def vlanDevice (i : Interface) : Except ConfigError (Option VlanDevice) :=
  if i.vlanRawDevice.isNone && i.vlan.isNone then .ok none
  else
    let device := i.deviceName.getD ""
    match VlanId.splitDevice device with
    | some (raw, .ok vlan) => .ok (some ⟨vlan, i.vlanRawDevice.getD raw⟩)
    | _ => .error (.invalidVlanInterface i.label device)

end Interface

/-- The nodes of a template configure the interface with a label. -/
def NodeTemplate.hasInterface (t : NodeTemplate) (label : String) : Bool := t.interfaces.contains label

/-! ## Lookups -/

namespace Cluster

/-- The definition without any section. -/
def empty : Cluster := ⟨[], [], [], []⟩

/-- The first interface with a label. -/
def interface? (c : Cluster) (label : String) : Option Interface :=
  c.interfaces.find? (·.label == label)

/-- The first switch with a label. -/
def switch? (c : Cluster) (label : String) : Option SwitchRecord :=
  c.switches.find? (·.label == label)

/-- The label of a switch's MLAG peer. -/
def mlagPeer (c : Cluster) (label : String) : Option String := (c.switch? label).bind (·.mlagPeer)

/-- The switch is flagged as the master of its pair. -/
def isFlagged (c : Cluster) (label : String) : Bool :=
  ((c.switch? label).map (·.mlagMaster)).getD false

/-- The master of a switch and its peer: the one flagged, or else the one with the smaller label. A
switch without a peer is its own master. -/
def masterOf (c : Cluster) (switch : String) (peer : Option String) : String :=
  match peer with
  | none => switch
  | some peer =>
    if c.isFlagged switch then switch
    else if c.isFlagged peer then peer
    else if peer < switch then peer
    else switch

/-- The prefix length of the first management network that has one. -/
def mgmtLength (c : Cluster) : Except ConfigError Nat :=
  match c.mgmtNetworks.findSome? (·.length) with
  | some n => .ok n
  | none => .error .missingMgmtNetwork

/-- What the drivers of the switches are made from, in the order of the definition. -/
def accessInfo (c : Cluster) : List AccessInfo :=
  c.switches.map fun s =>
    ⟨s.label, s.vendor, s.host, s.userid, s.password, s.mode, s.outfile⟩

/-- The labels of the interfaces that are slaves of the bond with the given device. -/
def slavesOf (c : Cluster) (device : String) : List String :=
  (c.interfaces.filter (·.masterDevice == some device)).map (·.label)

/-- The slaves of every bond that has some, by the bond's label. -/
def bondSlaves (c : Cluster) : SortedMap String (List String) :=
  c.interfaces.foldl (fun bonds i =>
    match i.isBond, i.deviceName with
    | true, some device =>
      let slaves := c.slavesOf device
      if slaves.isEmpty then bonds else bonds.insert i.label slaves
    | _, _ => bonds) .empty

end Cluster

end SwitchFabric
