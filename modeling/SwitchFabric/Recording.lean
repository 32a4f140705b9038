import SwitchFabric.Pass.Basic

/-!
# Recording switches

Switches that record their calls in one common log instead of doing anything. They keep whether MLAG
is configured, and can be made to fail at one method: the failing call is recorded, and has no other
effect.
-/

namespace SwitchFabric

/-- A switch that does nothing but note its calls. -/
structure RecordingSwitch where
  mlagConfigured : Bool
  /-- The method that fails. -/
  failOn : Option String
  deriving DecidableEq

/-- A switch without MLAG that never fails. -/
def RecordingSwitch.plain : RecordingSwitch := ⟨false, none⟩

/-- A call with the switch it was made on. -/
structure RecordedCall where
  switch : String
  call : Call
  deriving DecidableEq

/-- Switches by label, and what they have recorded, first call first. -/
structure Recording where
  switches : SortedMap String RecordingSwitch
  log : List RecordedCall
  deriving DecidableEq

namespace Recording

/-- Switches that have recorded nothing yet. -/
def start (switches : SortedMap String RecordingSwitch) : Recording := ⟨switches, []⟩

/-- The switch with a label; a label without one stands for a plain switch. -/
def switch (r : Recording) (label : String) : RecordingSwitch := (r.switches.get? label).getD .plain

/-- Record a call, which fails if it is to the switch's failing method. -/
def record (label : String) (call : Call) (r : Recording) : Except SwitchError Unit × Recording :=
  let after : Recording := { r with log := r.log ++ [⟨label, call⟩] }
  if (r.switch label).failOn == some call.method then
    (.error (.verification label ("injected failure in " ++ call.method)), after)
  else (.ok (), after)

/-- Whether MLAG is configured after an action. -/
def mlagAfter (before : Bool) : Action → Bool
  | .configureMlag _ => true
  | .deconfigureMlag => false
  | _ => before

/-- Note an action, and let it change whether MLAG is configured if it does not fail. -/
def act (label : String) (a : Action) (r : Recording) : Except SwitchError Unit × Recording :=
  match r.record label (.act a) with
  | (.error e, r) => (.error e, r)
  | (.ok (), r) =>
    let s := r.switch label
    let after : RecordingSwitch := { s with mlagConfigured := mlagAfter s.mlagConfigured a }
    (.ok (), { r with switches := r.switches.insert label after })

/-- Note the question, and answer as the actions so far have left the switch. -/
def isMlagConfigured (label : String) (r : Recording) : Except SwitchError Bool × Recording :=
  match r.record label .isMlagConfigured with
  | (.error e, r) => (.error e, r)
  | (.ok (), r) => (.ok (r.switch label).mlagConfigured, r)

/-- Recording switches in the place of drivers. -/
def fleet : Fleet Recording where
  hasDriver label r := r.switches.contains label
  act := act
  isMlagConfigured := isMlagConfigured

end Recording

end SwitchFabric
