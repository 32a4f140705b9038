import SwitchFabric.Prompt
import SwitchFabric.SortedMap
import SwitchFabric.Switch.Call
import SwitchFabric.Switch.Error
import SwitchFabric.Topology.Views

/-!
# Passes

A pass over a fabric is a list of steps. A step acts on one switch, perhaps only in one state of its
MLAG, and perhaps only with the operator's consent. Running a pass does its steps in order and ends at
the first failure; what was done before stays done. A pass does nothing at all unless every switch it
may concern has a driver.
-/

namespace SwitchFabric

/-- A step of a pass, on one switch. -/
inductive Step where
  | act (switch : String) (action : Action)
  /-- Ask whether MLAG is configured, and act in the given case. -/
  | whenMlag (switch : String) (configured : Bool) (actions : List Action)
  /-- Ask whether MLAG is configured; if it is, act with the operator's consent. -/
  | withConsent (switch : String) (question : String) (actions : List Action)
  deriving DecidableEq

/-- Switches with drivers, which share a state `σ`. -/
structure Fleet (σ : Type) where
  hasDriver : String → σ → Bool
  act : String → Action → σ → Except SwitchError Unit × σ
  isMlagConfigured : String → σ → Except SwitchError Bool × σ

/-- Why a pass did not come to its end, or did not begin. -/
inductive PassError where
  | missingDriver (switch : String)
  | switch (label : String) (e : SwitchError)
  /-- The driver of a switch could not be made. -/
  | factory (label : String) (e : SwitchError)
  | prompt (e : PromptError)
  deriving DecidableEq

/-- What the operator is told, with the switch that is concerned. -/
def PassError.message : PassError → String
  | missingDriver label => "No switch driver for '" ++ label ++ "'"
  | switch label e => "Switch " ++ label ++ ": " ++ e.message
  | factory label e => "Failed to create driver for switch " ++ label ++ ": " ++ e.message
  | prompt e => "Failed to read confirmation: " ++ e.message

/-- The state of the switches and of the operator. -/
structure PassState (σ π : Type) where
  fleet : σ
  operator : π

namespace Pass

variable {σ π : Type} (f : Fleet σ) (o : Operator π)

/-- Do actions on a switch up to the first that fails. -/
def actions (switch : String) : List Action → σ → Except PassError Unit × σ
  | [], s => (.ok (), s)
  | a :: as, s =>
    match f.act switch a s with
    | (.ok (), s) => actions switch as s
    | (.error e, s) => (.error (.switch switch e), s)

/-- Do one step. -/
def step : Step → PassState σ π → Except PassError Unit × PassState σ π
  | .act switch a, s =>
    let (result, fleet) := actions f switch [a] s.fleet
    (result, { s with fleet := fleet })
  | .whenMlag switch configured as, s =>
    match f.isMlagConfigured switch s.fleet with
    | (.error e, fleet) => (.error (.switch switch e), { s with fleet := fleet })
    | (.ok answer, fleet) =>
      if answer == configured then
        let (result, fleet) := actions f switch as fleet
        (result, { s with fleet := fleet })
      else (.ok (), { s with fleet := fleet })
  | .withConsent switch question as, s =>
    match f.isMlagConfigured switch s.fleet with
    | (.error e, fleet) => (.error (.switch switch e), { s with fleet := fleet })
    | (.ok false, fleet) => (.ok (), { s with fleet := fleet })
    | (.ok true, fleet) =>
      match o.confirm question s.operator with
      | (.error e, operator) => (.error (.prompt e), ⟨fleet, operator⟩)
      | (.ok false, operator) => (.ok (), ⟨fleet, operator⟩)
      | (.ok true, operator) =>
        let (result, fleet) := actions f switch as fleet
        (result, ⟨fleet, operator⟩)

/-- Do steps up to the first that fails. -/
def steps : List Step → PassState σ π → Except PassError Unit × PassState σ π
  | [], s => (.ok (), s)
  | t :: ts, s =>
    match step f o t s with
    | (.ok (), s) => steps ts s
    | (.error e, s) => (.error e, s)

/-- The least of the switches that has no driver. -/
def missingDriver (switches : List String) (s : σ) : Option String :=
  switches.find? fun label => !f.hasDriver label s

/-- Run a pass over the switches of a topology. -/
def run (t : Topology) (pass : List Step) (s : PassState σ π) :
    Except PassError Unit × PassState σ π :=
  match missingDriver f t.switches s.fleet with
  | some label => (.error (.missingDriver label), s)
  | none => steps f o pass s

end Pass

end SwitchFabric
