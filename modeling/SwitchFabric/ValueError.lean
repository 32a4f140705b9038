import SwitchFabric.Text.Decimal

/-!
# Refused network values

Why a text or number is no address, prefix, VLAN or port mode.
-/

namespace SwitchFabric

/-- Why a value was refused, by the kind that was expected. -/
inductive ValueError where
  | address (text : String)
  | addressPrefix (reason : String)
  | vlan (number : Nat)
  | portMode (text : String)
  deriving DecidableEq

/-- The text of an error, with what was given in place of the value. -/
def ValueError.message : ValueError → String
  | .address text => "invalid IP address format: " ++ text
  | .addressPrefix reason => "invalid IP prefix format: " ++ reason
  | .vlan n => "invalid VLAN ID: " ++ Text.decimal n ++ " (must be 1-4094)"
  | .portMode text => "invalid switchport mode: " ++ text

end SwitchFabric
