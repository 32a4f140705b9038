import SwitchFabric.Proofs.Pass.ChannelMtus
import SwitchFabric.Proofs.Recording.Calls

/-!
# How often a port is given an MTU

The topology lists a port under an MTU as often as the templates wire the port to interfaces with it
(`Cluster.heldAt_mtuPorts`), and configuring gives the port the MTU as often (`Topology.count_of_does_configure`). So the
ports of a switch have one call each for an MTU if and only if none of them is wired twice to interfaces with the MTU
(`port_mtu_calls`), as a port is that is wired to a device and to a VLAN interface of it (`port_mtu_called_twice`).
-/

namespace SwitchFabric

/-- The port that the action gives an MTU. -/
def Action.portGiven? (mtu : Mtu) : Action → Option Nat
  | setMtuForPort port m => if m = mtu then some port else none
  | _ => none

/-- What only one action gives is given as often as the action is done. -/
theorem count_filterMap_of_iff {β : Type} [DecidableEq β] {f : Action → Option β} {x : β} {a : Action}
    (h : ∀ b, f b = some x ↔ b = a) (as : List Action) : (as.filterMap f).count x = as.count a := by
  rw [List.count_filterMap, List.count]
  exact List.countP_congr fun b _ => by simp [h]

theorem count_portMtus (port : Nat) (mtu : Mtu) (as : List Action) :
    (portMtus port as).count mtu = as.count (.setMtuForPort port mtu) :=
  count_filterMap_of_iff (fun a => by cases a <;> simp [Action.portMtu?]) as

theorem count_portsGiven (port : Nat) (mtu : Mtu) (as : List Action) :
    (as.filterMap (Action.portGiven? mtu)).count port = as.count (.setMtuForPort port mtu) :=
  count_filterMap_of_iff (fun a => by cases a <;> simp [Action.portGiven?, and_comm]) as

/-! ## What configuring does -/

namespace Topology

variable {t : Topology} {label : String} {as : List Action}

/-- The ports are given an MTU as they are listed under it. -/
theorem portsGiven_configureMtus (h : Pass.Does label t.configureMtus as) (m : Mtu) :
    as.filterMap (Action.portGiven? m) = heldAt t.mtuPorts label m := by
  rw [does_configureMtus h, heldAt]
  cases t.mtuPorts.get? label with
  | none => rfl
  | some mtus =>
    have hentry (e : Mtu × List Nat) : (e.2.map fun port => Action.setMtuForPort port e.1).filterMap
        (Action.portGiven? m) = if e.1 = m then e.2 else [] := by
      rw [List.filterMap_map]
      by_cases he : e.1 = m <;> simp [Function.comp_def, Action.portGiven?, he]
    rw [Option.map_some, Option.getD_some, Option.bind_some, portMtuActions, List.filterMap_flatMap]
    simp only [hentry]
    exact (SortedMap.flatMap_entries mtus m id).trans (by rw [Option.map_id_fun, id])

/-- To configure a switch gives a port an MTU as often as the port is listed under it. -/
theorem count_of_does_configure (h : Pass.Does label t.configure as) (port : Nat) (m : Mtu) :
    as.count (.setMtuForPort port m) = (heldAt t.mtuPorts label m).count port := by
  obtain ⟨-, mtus, hmtus, hports⟩ := mtus_of_does_configure h
  rw [← count_portMtus, hports, count_portMtus, ← count_portsGiven, portsGiven_configureMtus hmtus]

end Topology

/-! ## What recording switches record -/

namespace Recording

variable {π : Type} {o : Operator π} {t : Topology} {pass : List Step} {s : PassState Recording π}

/-- In a pass that ends well, an action is called on a switch as often as it is done to it. -/
theorem count_calls (hok : (Pass.run fleet o t pass s).1 = .ok ()) (label : String) (a : Action) :
    ((Pass.events fleet o t pass s).filterMap Event.call?).count ⟨label, .act a⟩ =
      (effects label (Pass.events fleet o t pass s)).count a := by
  rw [← actionsOn_calls hok, count_actionsOn]

end Recording

namespace Cluster

/-- In a pass that configures recording switches to the end, a switch records as many calls that give a port an MTU as
the templates wire the port to interfaces with the MTU: none if they do not. All ports have one call for the MTU if and
only if none of them is wired twice. -/
theorem port_mtu_calls {c : Cluster} {t : Topology} (ht : c.topology = .ok t) {π : Type} (o : Operator π)
    {s : PassState Recording π} (hok : (Pass.run Recording.fleet o t t.configure s).1 = .ok ()) :
    ∃ calls, (Pass.run Recording.fleet o t t.configure s).2.fleet.log = s.fleet.log ++ calls ∧
      ∀ label m,
        (∀ port, calls.count ⟨label, .act (.setMtuForPort port m)⟩ = (c.portsWithMtu label m).count port) ∧
        (∀ port, calls.count ⟨label, .act (.setMtuForPort port m)⟩ = 0 ↔ ¬ c.HasMtu label port m) ∧
        ((∀ port, c.HasMtu label port m → calls.count ⟨label, .act (.setMtuForPort port m)⟩ = 1) ↔
          (c.portsWithMtu label m).Nodup) := by
  refine ⟨_, Recording.log_pass o t t.configure s, fun label m => ?_⟩
  have hdoes := Pass.does_of_ok hok label
  have htimes (port : Nat) : ((Pass.events Recording.fleet o t t.configure s).filterMap Event.call?).count
      ⟨label, .act (.setMtuForPort port m)⟩ = (c.portsWithMtu label m).count port := by
    rw [Recording.count_calls hok, Topology.count_of_does_configure hdoes, ← (topology_eq_ok ht).2.1, heldAt_mtuPorts]
  refine ⟨htimes, fun port => ?_, ?_⟩
  · rw [htimes, List.count_eq_zero, mem_portsWithMtu]
  · rw [List.nodup_iff_count_eq_one]
    simp only [htimes, mem_portsWithMtu]

/-- The slaves of a bond are wired once, and its VLAN interface with another MTU is wired to the same ports: the lowest port
has one call for each MTU. -/
theorem port_mtu_calls_taggedBond :
    let c := taggedBond 1500
    let t := c.topology.toOption.getD .empty
    let s : PassState Recording Script := ⟨.start (.ofList [("data_1", .plain)]), ⟨[], []⟩⟩
    let run := Pass.run Recording.fleet Script.operator t t.configure s
    c.topology = .ok t ∧ run.1 = .ok () ∧
      run.2.fleet.log.count ⟨"data_1", .act (.setMtuForPort 5 ⟨1500⟩)⟩ = 1 ∧
      run.2.fleet.log.count ⟨"data_1", .act (.setMtuForPort 5 ⟨9000⟩)⟩ = 1 ∧
      run.2.fleet.log.count ⟨"data_1", .act (.setMtuForPort 7 ⟨9000⟩)⟩ = 0 := by
  intro c t s run
  have hok : run.1 = .ok () := by decide +kernel
  obtain ⟨calls, hlog, htimes⟩ := port_mtu_calls (c := c) (t := t) rfl Script.operator hok
  have hsmall : c.portsWithMtu "data_1" ⟨1500⟩ = [5, 6] := by decide +kernel
  have hlarge : c.portsWithMtu "data_1" ⟨9000⟩ = [5, 6] := by decide +kernel
  have hwired {m : Mtu} (h : c.portsWithMtu "data_1" m = [5, 6]) : c.HasMtu "data_1" 5 m := by
    simp [← mem_portsWithMtu, h]
  have hnone : ¬ c.HasMtu "data_1" 7 ⟨9000⟩ := by simp [← mem_portsWithMtu, hlarge]
  obtain ⟨-, -, hsmall'⟩ := htimes "data_1" ⟨1500⟩
  obtain ⟨-, hzero, hlarge'⟩ := htimes "data_1" ⟨9000⟩
  have hstart : s.fleet.log = [] := rfl
  rw [hlog, hstart, List.nil_append]
  exact ⟨rfl, hok, hsmall'.2 (by simp [hsmall]) 5 (hwired hsmall), hlarge'.2 (by simp [hlarge]) 5 (hwired hlarge),
    (hzero 7).2 hnone⟩

/-- A port that is wired to a device and to a VLAN interface of it, which have the same MTU. -/
def doubledPort : Cluster :=
  bare.withSwitch "data_1"
    |>.withInterface ((Interface.physical "eth10").withMtu 9000)
    |>.withInterface ((Interface.ofVlan "eth10" 20).withMtu 9000)
    |>.withTemplate "compute" [⟨"data_1", "eth10", [5]⟩, ⟨"data_1", "eth10.20", [5]⟩]

/-- The port is given its MTU twice. -/
theorem port_mtu_called_twice :
    let c := doubledPort
    let t := c.topology.toOption.getD .empty
    let s : PassState Recording Script := ⟨.start (.ofList [("data_1", .plain)]), ⟨[], []⟩⟩
    let run := Pass.run Recording.fleet Script.operator t t.configure s
    c.check = .ok () ∧ c.topology = .ok t ∧ run.1 = .ok () ∧ c.HasMtu "data_1" 5 ⟨9000⟩ ∧
      run.2.fleet.log.count ⟨"data_1", .act (.setMtuForPort 5 ⟨9000⟩)⟩ = 2 := by
  intro c t s run
  refine ⟨rfl, rfl, ?_, ?_, ?_⟩
  · decide +kernel
  · rw [← mem_portsWithMtu]
    decide +kernel
  · decide +kernel

end Cluster

end SwitchFabric
