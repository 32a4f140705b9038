import SwitchFabric.Address
import SwitchFabric.Text.Literal
import SwitchFabric.Vlan

/-!
# MLAG parameters
-/

namespace SwitchFabric

/-- What one member of a pair needs to bring MLAG up. -/
structure MlagParams where
  /-- The VLAN of the inter-peer link. -/
  vlan : VlanId
  /-- The port channel of the inter-peer link, which has one number on both members. -/
  channel : Nat
  /-- This member's address on the link. -/
  cidr : IpPrefix
  /-- The partner's address on the link. -/
  peerIp : IpAddress
  /-- The virtual address of the pair, which only the member that is not the master has. -/
  vip : Option IpPrefix
  /-- The ports bundled into the link. -/
  ports : List Nat
  deriving DecidableEq

/-- A VLAN as it is written in a record. -/
def VlanId.shown (v : VlanId) : String := "VlanId(" ++ v.toText ++ ")"

/-- A list of ports as it is written in a record. -/
def shownPorts (ports : List Nat) : String := Text.bracketed (ports.map Text.decimal)

/-- The parameters as a record of their fields. -/
def MlagParams.shown (p : MlagParams) : String :=
  let vip := match p.vip with
    | none => "None"
    | some v => "Some(" ++ v.shown ++ ")"
  "MlagParams \x7b vlan: " ++ p.vlan.shown ++ ", port_channel: " ++ Text.decimal p.channel ++
    ", ipl_cidr: " ++ p.cidr.shown ++ ", peer_ip: " ++ p.peerIp.shown ++ ", vip: " ++ vip ++
    ", ipl_ports: " ++ shownPorts p.ports ++ " \x7d"

end SwitchFabric
