import SwitchFabric.Onyx.Command
import SwitchFabric.Onyx.Show
import SwitchFabric.Switch.Call
import SwitchFabric.Switch.Error

/-!
# What a call means on an Onyx switch

Each call of the driver is a list of moves: commands to send, and expectations to read back afterwards.
Only the removal of MLAG depends on what the switch shows, since its commands name the inter-peer link
that is found there.
-/

namespace SwitchFabric.Onyx

/-- What the switch should show after a command. -/
inductive Expectation where
  /-- The VLAN exists, or does not. -/
  | vlan (v : VlanId) (listed : Bool)
  | mode (port : Nat) (mode : SwitchportMode)
  /-- The port carries the VLAN, or does not. -/
  | allowed (port : Nat) (v : VlanId) (carried : Bool)
  deriving DecidableEq

namespace Expectation

/-- The command that shows whether it holds. -/
def query : Expectation → String
  | vlan .. => showVlan
  | mode .. | allowed .. => showSwitchport

/-- The state of a port in the port table, in which it must have a row. -/
def portState (table : String) (port : Nat) : Except SwitchError PortState :=
  match (readPorts table.toList).get? port with
  | some s => .ok s
  | none => .error (.unexpectedOutput showSwitchport ("no entry for port " ++ Text.decimal port))

/-- It holds by what the command shows. -/
def holds (shown : String) : Expectation → Except SwitchError Bool
  | vlan v listed => .ok (vlanListed shown.toList v == listed)
  | mode port m => (portState shown port).map fun s => s.isInMode m
  | allowed port v carried =>
    (portState shown port).map fun s => s.allowedVlans.contains v.number == carried

end Expectation

/-- One thing that the driver does for a call. -/
inductive Move where
  | send (command : String)
  /-- Read the state back, which must be as expected or else the call fails for a reason. -/
  | expect (e : Expectation) (failure : String)
  /-- Find the inter-peer link, and take MLAG down on it. -/
  | takeDownMlag
  deriving DecidableEq

/-- Commands to send. -/
def sendAll (commands : List String) : List Move := commands.map .send

/-- A VLAN that was created must be listed. -/
def createVlanMoves (v : VlanId) : List Move :=
  [.send (createVlan v), .expect (.vlan v true) ("Failed creating VLAN " ++ v.toText)]

/-- A VLAN that was deleted must be listed no more. -/
def deleteVlanMoves (v : VlanId) : List Move :=
  [.send (deleteVlan v), .expect (.vlan v false) ("Failed deleting VLAN " ++ v.toText)]

/-- The port table must show the mode that was set. -/
def setModeMoves (port : Nat) (mode : SwitchportMode) : List Move :=
  [.send (setMode port mode),
    .expect (.mode port mode)
      ("Failed setting port " ++ Text.decimal port ++ " to " ++ mode.name ++ " mode")]

/-- The port table must show a VLAN on the port it was added to. -/
def allowVlanMoves (port : Nat) (v : VlanId) : List Move :=
  [.send (allowVlan port v),
    .expect (.allowed port v true)
      ("Failed adding VLAN " ++ v.toText ++ " to port " ++ Text.decimal port)]

/-- The port table must not show a VLAN on the port it was removed from. -/
def forbidVlanMoves (port : Nat) (v : VlanId) : List Move :=
  [.send (forbidVlan port v),
    .expect (.allowed port v false)
      ("Failed removing VLAN " ++ v.toText ++ " from port " ++ Text.decimal port)]

/-- The moves of an action. -/
def moves : Action → List Move
  | .createVlan v => createVlanMoves v
  | .deleteVlan v => deleteVlanMoves v
  | .setSwitchportMode port mode => setModeMoves port mode
  | .addVlansToPort port vlans => vlans.flatMap (allowVlanMoves port)
  | .removeVlansFromPort port vlans => vlans.flatMap (forbidVlanMoves port)
  | .setMtuForPort port mtu => sendAll (setMtu port mtu)
  | .configureMlag p =>
    sendAll (configureMlag p) ++
      [.expect (.vlan p.vlan true) ("Failed creating MLAG VLAN " ++ p.vlan.toText)]
  | .enableMlag => [.send enableMlag]
  | .deconfigureMlag => [.takeDownMlag]
  | .createLagInterface channel => [.send (createLag channel)]
  | .removeLagInterface channel => [.send (removeLag channel)]
  | .removeChannelGroup port => [.send (unbindPort port)]
  | .bindPortsToLagInterface ports channel => sendAll (ports.map (bindToLag · channel))
  | .addVlansToLagPortChannel channel vlans => sendAll (setChannelVlans .lag channel vlans)
  | .setMtuForLagPortChannel channel mtu => [.send (setChannelMtu .lag channel mtu)]
  | .createMlagInterface channel => sendAll (createMlagChannel channel)
  | .removeMlagInterface channel => [.send (removeMlagChannel channel)]
  | .bindPortToMlagInterface port channel => sendAll (bindToMlag port channel)
  | .addVlansToMlagPortChannel channel vlans => sendAll (setChannelVlans .mlag channel vlans)
  | .setMtuForMlagPortChannel channel mtu => [.send (setChannelMtu .mlag channel mtu)]

end SwitchFabric.Onyx
