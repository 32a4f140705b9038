import SwitchFabric.Text.Literal
import SwitchFabric.ValueError

/-!
# Faults of a cluster definition
-/

namespace SwitchFabric

/-- Why a cluster definition cannot be loaded or its views cannot be derived. -/
inductive ConfigError where
  | io (path reason : String)
  /-- The document is not a cluster definition, for a reason about its content if one is known. -/
  | yaml (reason : Option String)
  | unknownSwitch (label context : String)
  | unknownInterface (label context : String)
  | duplicateSwitch (label : String)
  | asymmetricPeers (switch peer : String) (peerOfPeer : Option String)
  | conflictingMasters (switch peer : String)
  | missingMlagLink (switch peer : String)
  | incompleteMlagLink (switch peer field : String)
  | mlagMembership (bond template master : String) (count : Nat)
  | misalignedGroups (bond template master peer : String)
  | invalidVlanInterface (label device : String)
  | missingMgmtNetwork
  | invalidAddress (e : ValueError)
  deriving DecidableEq

namespace ConfigError

/-- The bond, template and switch of a port-channel group, as its faults name them. -/
def groupOf (bond template : String) : String :=
  "bond " ++ bond ++ " (template " ++ template ++ ")"

/-- An optional text as a literal. -/
def optionLiteral : Option String → String
  | none => "None"
  | some s => "Some(" ++ Text.literal s ++ ")"

/-- What the operator is told of an error. -/
def message : ConfigError → String
  | io path reason => "Failed to read config file " ++ path ++ ": " ++ reason
  | yaml none => "Failed to parse config"
  | yaml (some reason) => "Failed to parse config: " ++ reason
  | unknownSwitch label context =>
    "Unknown data switch '" ++ label ++ "' referenced by " ++ context
  | unknownInterface label context =>
    "Unknown interface '" ++ label ++ "' referenced by " ++ context
  | duplicateSwitch label => "Duplicate data switch label '" ++ label ++ "'"
  | asymmetricPeers switch peer peerOfPeer =>
    "MLAG peering is not symmetric: " ++ switch ++ " names " ++ peer ++ ", which names " ++
      optionLiteral peerOfPeer
  | conflictingMasters switch peer =>
    "Both " ++ switch ++ " and " ++ peer ++ " are flagged as MLAG master"
  | missingMlagLink switch peer => "Switch " ++ switch ++ " has no link to its MLAG peer " ++ peer
  | incompleteMlagLink switch peer field =>
    "MLAG link from " ++ switch ++ " to " ++ peer ++ " has no " ++ field
  | mlagMembership bond template master count =>
    "Port channel group for " ++ groupOf bond template ++ " spans " ++ Text.decimal count ++
      " switches under master " ++ master
  | misalignedGroups bond template master peer =>
    "MLAG port groups for " ++ groupOf bond template ++ " do not line up between " ++ master ++
      " and " ++ peer
  | invalidVlanInterface label device =>
    "Interface '" ++ label ++ "' has an invalid VLAN device name '" ++ device ++ "'"
  | missingMgmtNetwork => "No management network prefix in deployer.networks.mgmt"
  | invalidAddress e => "Invalid address in MLAG link: " ++ e.message

end ConfigError

end SwitchFabric
