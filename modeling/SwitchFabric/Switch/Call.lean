import SwitchFabric.Port
import SwitchFabric.Switch.Mlag

/-!
# Calls of a switch driver

What a driver can be asked: twenty actions that change the switch, and the one question whether MLAG is
configured on it.
-/

namespace SwitchFabric

/-- A call that changes a switch. Port channels are named by their numbers. -/
inductive Action where
  | createVlan (vlan : VlanId)
  | deleteVlan (vlan : VlanId)
  | setSwitchportMode (port : Nat) (mode : SwitchportMode)
  | addVlansToPort (port : Nat) (vlans : List VlanId)
  | removeVlansFromPort (port : Nat) (vlans : List VlanId)
  | setMtuForPort (port : Nat) (mtu : Mtu)
  | configureMlag (params : MlagParams)
  | enableMlag
  | deconfigureMlag
  | createLagInterface (channel : Nat)
  | removeLagInterface (channel : Nat)
  | removeChannelGroup (port : Nat)
  | bindPortsToLagInterface (ports : List Nat) (channel : Nat)
  | addVlansToLagPortChannel (channel : Nat) (vlans : List VlanId)
  | setMtuForLagPortChannel (channel : Nat) (mtu : Mtu)
  | createMlagInterface (channel : Nat)
  | removeMlagInterface (channel : Nat)
  | bindPortToMlagInterface (port channel : Nat)
  | addVlansToMlagPortChannel (channel : Nat) (vlans : List VlanId)
  | setMtuForMlagPortChannel (channel : Nat) (mtu : Mtu)
  deriving DecidableEq

/-- A call of either kind. -/
inductive Call where
  | isMlagConfigured
  | act (action : Action)
  deriving DecidableEq

/-! ## Names -/

namespace Action

/-- The name of the method that an action calls. -/
def method : Action → String
  | createVlan _ => "create_vlan"
  | deleteVlan _ => "delete_vlan"
  | setSwitchportMode .. => "set_switchport_mode"
  | addVlansToPort .. => "add_vlans_to_port"
  | removeVlansFromPort .. => "remove_vlans_from_port"
  | setMtuForPort .. => "set_mtu_for_port"
  | configureMlag _ => "configure_mlag"
  | enableMlag => "enable_mlag"
  | deconfigureMlag => "deconfigure_mlag"
  | createLagInterface _ => "create_lag_interface"
  | removeLagInterface _ => "remove_lag_interface"
  | removeChannelGroup _ => "remove_channel_group"
  | bindPortsToLagInterface .. => "bind_ports_to_lag_interface"
  | addVlansToLagPortChannel .. => "add_vlans_to_lag_port_channel"
  | setMtuForLagPortChannel .. => "set_mtu_for_lag_port_channel"
  | createMlagInterface _ => "create_mlag_interface"
  | removeMlagInterface _ => "remove_mlag_interface"
  | bindPortToMlagInterface .. => "bind_port_to_mlag_interface"
  | addVlansToMlagPortChannel .. => "add_vlans_to_mlag_port_channel"
  | setMtuForMlagPortChannel .. => "set_mtu_for_mlag_port_channel"

/-- A call as it is written in a record: its name, and its arguments in parentheses. -/
def written (name : String) (arguments : List String) : String :=
  name ++ "(" ++ ", ".intercalate arguments ++ ")"

/-- Several VLANs as one argument. -/
def shownVlans (vlans : List VlanId) : String := Text.bracketed (vlans.map VlanId.shown)

/-- A mode as an argument. -/
def shownMode : SwitchportMode → String
  | .access => "Access"
  | .trunk => "Trunk"

/-- An MTU as an argument, with its type around the number. -/
def shownMtu (mtu : Mtu) : String := "Mtu(" ++ Text.decimal mtu.value ++ ")"

/-- The call as a record of its arguments. -/
def shown : Action → String
  | createVlan v => written "CreateVlan" [v.shown]
  | deleteVlan v => written "DeleteVlan" [v.shown]
  | setSwitchportMode p m => written "SetSwitchportMode" [Text.decimal p, shownMode m]
  | addVlansToPort p vs => written "AddVlansToPort" [Text.decimal p, shownVlans vs]
  | removeVlansFromPort p vs => written "RemoveVlansFromPort" [Text.decimal p, shownVlans vs]
  | setMtuForPort p m => written "SetMtuForPort" [Text.decimal p, shownMtu m]
  | configureMlag params => written "ConfigureMlag" [params.shown]
  | enableMlag => "EnableMlag"
  | deconfigureMlag => "DeconfigureMlag"
  | createLagInterface c => written "CreateLagInterface" [Text.decimal c]
  | removeLagInterface c => written "RemoveLagInterface" [Text.decimal c]
  | removeChannelGroup p => written "RemoveChannelGroup" [Text.decimal p]
  | bindPortsToLagInterface ps c =>
    written "BindPortsToLagInterface" [shownPorts ps, Text.decimal c]
  | addVlansToLagPortChannel c vs =>
    written "AddVlansToLagPortChannel" [Text.decimal c, shownVlans vs]
  | setMtuForLagPortChannel c m => written "SetMtuForLagPortChannel" [Text.decimal c, shownMtu m]
  | createMlagInterface c => written "CreateMlagInterface" [Text.decimal c]
  | removeMlagInterface c => written "RemoveMlagInterface" [Text.decimal c]
  | bindPortToMlagInterface p c =>
    written "BindPortToMlagInterface" [Text.decimal p, Text.decimal c]
  | addVlansToMlagPortChannel c vs =>
    written "AddVlansToMlagPortChannel" [Text.decimal c, shownVlans vs]
  | setMtuForMlagPortChannel c m =>
    written "SetMtuForMlagPortChannel" [Text.decimal c, shownMtu m]

end Action

namespace Call

/-- The name of the method that is called. -/
def method : Call → String
  | isMlagConfigured => "is_mlag_configured"
  | act a => a.method

/-- The call only asks. -/
def isQuery : Call → Bool
  | isMlagConfigured => true
  | act _ => false

/-- The call as a record of its arguments. -/
def shown : Call → String
  | isMlagConfigured => "IsMlagConfigured"
  | act a => a.shown

end Call

end SwitchFabric
