import SwitchFabric.Delivery
import SwitchFabric.Onyx.Moves

/-!
# The Onyx driver

The driver does the moves of each call up to the first that fails. A driver that collects its commands in
a file cannot ask the switch anything: its expectations count as met, it takes MLAG for unconfigured, and
it has no link to take down.
-/

namespace SwitchFabric.Onyx

/-- The name under which the driver is registered. -/
def vendor : String := "mellanox"

/-- A driver for one switch, which reaches it or collects commands for it. -/
structure Driver where
  host : String
  delivery : Delivery
  deriving DecidableEq

namespace Driver

/-- The driver for a switch. To send commands, it needs a user to log in as. -/
def ofAccess (a : AccessInfo) : Except SwitchError Driver :=
  (Delivery.ofAccess a).map fun d => ⟨a.host, d⟩

variable {ν : Type} (net : Network ν) (d : Driver)

/-- Run a command on the switch, or collect it as it is. -/
def command (c : String) (m : Machine ν) : Except SwitchError String × Machine ν :=
  d.delivery.send net (if d.delivery.isPassive then c else remote c) m

/-- Run commands up to the first that fails. -/
def commands : List String → Machine ν → Except SwitchError Unit × Machine ν
  | [], m => (.ok (), m)
  | c :: cs, m =>
    match d.command net c m with
    | (.error e, m) => (.error e, m)
    | (.ok _, m) => commands cs m

/-- What a show command prints, if the switch can be asked. -/
def query (c : String) (m : Machine ν) : Except SwitchError (Option String) × Machine ν :=
  if d.delivery.isPassive then (.ok none, m)
  else
    match d.command net c m with
    | (.error e, m) => (.error e, m)
    | (.ok shown, m) => (.ok (some shown), m)

/-- Find the inter-peer link, if the switch can be asked. -/
def findLink (m : Machine ν) : Except SwitchError (Option PeerLink) × Machine ν :=
  match d.query net showMlag m with
  | (.error e, m) => (.error e, m)
  | (.ok none, m) => (.ok none, m)
  | (.ok (some shown), m) =>
    match readLink shown.toList with
    | none => (.error (.unexpectedOutput showMlag "MLAG port channel information not found"), m)
    | some (channel, vlan) =>
      match d.query net showChannels m with
      | (.error e, m) => (.error e, m)
      | (.ok summary, m) =>
        let ports := readMembers (summary.getD "").toList channel
        if ports.isEmpty then
          (.error (.unexpectedOutput showChannels "MLAG IPL port channel information not found"), m)
        else (.ok (some ⟨channel, vlan, ports⟩), m)

/-- Do one move. -/
def move : Move → Machine ν → Except SwitchError Unit × Machine ν
  | .send c, m => d.commands net [c] m
  | .expect e failure, m =>
    match d.query net e.query m with
    | (.error e, m) => (.error e, m)
    | (.ok none, m) => (.ok (), m)
    | (.ok (some shown), m) =>
      match e.holds shown with
      | .error e => (.error e, m)
      | .ok true => (.ok (), m)
      | .ok false => (.error (.verification d.host failure), m)
  | .takeDownMlag, m =>
    match d.findLink net m with
    | (.error e, m) => (.error e, m)
    | (.ok none, m) => (.ok (), m)
    | (.ok (some link), m) => d.commands net (deconfigureMlag link) m

/-- Do moves up to the first that fails. -/
def run : List Move → Machine ν → Except SwitchError Unit × Machine ν
  | [], m => (.ok (), m)
  | move :: rest, m =>
    match d.move net move m with
    | (.error e, m) => (.error e, m)
    | (.ok (), m) => run rest m

/-- Carry an action out, in either way of delivery. -/
def act (a : Action) (m : Machine ν) : Except SwitchError Unit × Machine ν :=
  d.run net (moves a) m

/-- MLAG is configured if the switch shows an inter-peer link. -/
def isMlagConfigured (m : Machine ν) : Except SwitchError Bool × Machine ν :=
  match d.query net showMlag m with
  | (.error e, m) => (.error e, m)
  | (.ok shown, m) => (.ok (shown.any fun s => (readLink s.toList).isSome), m)

end Driver

end SwitchFabric.Onyx
