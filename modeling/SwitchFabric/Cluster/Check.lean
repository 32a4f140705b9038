import SwitchFabric.Cluster.Config

/-!
# Consistency of a cluster definition

Switch labels are unique, MLAG peers name each other and do not both claim to be master, and node
templates are wired to switches and interfaces that exist.
-/

namespace SwitchFabric.Cluster

/-- The first label that comes a second time. -/
def repeatedLabel (seen : List String) : List String → Option String
  | [] => none
  | label :: labels =>
    if seen.contains label then some label else repeatedLabel (label :: seen) labels

/-- The peer of a switch exists, names the switch as its own peer, and at most one of the two is flagged
as master. -/
def checkPeer (c : Cluster) (s : SwitchRecord) : Except ConfigError Unit :=
  match s.mlagPeer with
  | none => .ok ()
  | some label =>
    match c.switch? label with
    | none => .error (.unknownSwitch label ("mlag_peer of " ++ s.label))
    | some peer =>
      if peer.mlagPeer != some s.label then
        .error (.asymmetricPeers s.label peer.label peer.mlagPeer)
      else if s.mlagMaster && peer.mlagMaster then
        .error (.conflictingMasters s.label peer.label)
      else .ok ()

/-- The switch and the interface of a template's binding exist. -/
def checkBinding (c : Cluster) (template : String) (b : Binding) : Except ConfigError Unit :=
  let context := "node template " ++ template
  if (c.switch? b.switch).isNone then .error (.unknownSwitch b.switch context)
  else if (c.interface? b.interface).isNone then .error (.unknownInterface b.interface context)
  else .ok ()

/-- Check what the derived views rely on. Labels come first, then peers, then templates. -/
def check (c : Cluster) : Except ConfigError Unit := do
  match repeatedLabel [] (c.switches.map (·.label)) with
  | some label => .error (.duplicateSwitch label)
  | none => .ok ()
  c.switches.forM c.checkPeer
  c.templates.forM fun t => t.bindings.forM (c.checkBinding t.label)

end SwitchFabric.Cluster
