import SwitchFabric.Address
import SwitchFabric.Port
import SwitchFabric.Vlan

/-!
# Access to a switch

Where a switch is, whose driver it needs, and whether commands are sent to it or collected in a file
for the operator.
-/

namespace SwitchFabric

/-- How a driver delivers commands. -/
inductive DriverMode where
  /-- Commands are sent to the switch and verified where that is possible. -/
  | active
  /-- Commands are appended to a file, and queries find nothing configured. -/
  | passive
  deriving DecidableEq

/-- The mode as a definition spells it. -/
def DriverMode.name : DriverMode → String
  | .active => "active"
  | .passive => "passive"

/-- What a driver is made from. -/
structure AccessInfo where
  label : String
  /-- The name under which the driver is registered. -/
  vendor : String
  host : String
  userid : Option String
  password : Option String
  mode : DriverMode
  /-- The file that collects the commands in passive mode. -/
  outfile : Option String
  deriving DecidableEq

/-- The file for passive mode, named after the switch when none is configured. -/
def AccessInfo.commandFile (a : AccessInfo) : String :=
  a.outfile.getD ("switch_cmds_" ++ a.label ++ ".txt")

end SwitchFabric
