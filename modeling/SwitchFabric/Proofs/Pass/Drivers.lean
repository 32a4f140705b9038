import SwitchFabric.Cluster.Builder
import SwitchFabric.Proofs.Recording.Calls
import SwitchFabric.Proofs.Pass.Steps
import SwitchFabric.Proofs.Topology.Wiring
import SwitchFabric.Proofs.Registry

/-!
# Drivers are looked for up front

A pass fails for want of a driver if some switch that the views mention has none, and for no other reason
(`run_eq_missingDriver_iff`). It then names the least such switch, and nothing has happened.

Each phase of a pass goes from switch to switch and takes the driver of each before it does anything there (`Visit`).
It never takes one that is missing: the switches that the phases visit are among those that the views mention
(`mentions_of_mem_configureVisits`, `mentions_of_mem_deconfigureVisits`), and calls keep the drivers that there are. So a
pass that takes its drivers one by one ends as one that takes them for granted (`Topology.runVisits_eq_run`).
-/

namespace SwitchFabric

/-- What is done with the driver of one switch, once it is looked up. -/
structure Visit where
  switch : String
  steps : List Step

/-- The steps of a visit are on its switch. -/
def Visit.Stays (v : Visit) : Prop := ∀ u ∈ v.steps, u.switch = v.switch

/-- Calls on switches that have drivers leave it at the drivers that there are. -/
structure Fleet.KeepsDrivers {σ : Type} (f : Fleet σ) : Prop where
  act {label : String} {s : σ} (a : Action) (other : String) : f.hasDriver label s = true →
    f.hasDriver other (f.act label a s).2 = f.hasDriver other s
  query {label : String} {s : σ} (other : String) : f.hasDriver label s = true →
    f.hasDriver other (f.isMlagConfigured label s).2 = f.hasDriver other s

namespace Pass

variable {σ π : Type} (f : Fleet σ) (o : Operator π)

/-- Make visits up to the first that fails. A visit fails if its switch has no driver. -/
def visits : List Visit → PassState σ π → Except PassError Unit × PassState σ π
  | [], s => (.ok (), s)
  | v :: vs, s =>
    if f.hasDriver v.switch s.fleet then
      match steps f o v.steps s with
      | (.ok (), s) => visits vs s
      | (.error e, s) => (.error e, s)
    else (.error (.missingDriver v.switch), s)

/-- Run a pass over the switches of a topology that takes the driver of each switch when it comes to it. -/
def runVisits (t : Topology) (vs : List Visit) (s : PassState σ π) : Except PassError Unit × PassState σ π :=
  match missingDriver f t.switches s.fleet with
  | some label => (.error (.missingDriver label), s)
  | none => visits f o vs s

/-! ## Lookups along the way -/

variable {f}

theorem hasDriver_actions (hf : f.KeepsDrivers) {label : String} (as : List Action) {s : σ}
    (hd : f.hasDriver label s = true) (other : String) :
    f.hasDriver other (actions f label as s).2 = f.hasDriver other s := by
  induction as generalizing s with
  | nil => rfl
  | cons a as ih =>
    have hact := hf.act a other hd
    have hown := hf.act a label hd
    rw [actions]
    rcases hrun : f.act label a s with ⟨_ | _, s'⟩ <;> rw [hrun] at hact hown
    · exact hact
    · exact (ih (hown.trans hd)).trans hact

theorem hasDriver_step (hf : f.KeepsDrivers) (u : Step) {s : PassState σ π}
    (hd : f.hasDriver u.switch s.fleet = true) (other : String) :
    f.hasDriver other (step f o u s).2.fleet = f.hasDriver other s.fleet := by
  cases u with
  | act label a => exact hasDriver_actions hf [a] hd other
  | whenMlag label configured as =>
    have hd : f.hasDriver label s.fleet = true := hd
    have hquery := hf.query other hd
    have hown := hf.query label hd
    rw [step]
    rcases hrun : f.isMlagConfigured label s.fleet with ⟨_ | answer, s'⟩ <;> rw [hrun] at hquery hown
    · exact hquery
    · dsimp only
      split
      · exact (hasDriver_actions hf as (hown.trans hd) other).trans hquery
      · exact hquery
  | withConsent label question as =>
    have hd : f.hasDriver label s.fleet = true := hd
    have hquery := hf.query other hd
    have hown := hf.query label hd
    rw [step]
    rcases hrun : f.isMlagConfigured label s.fleet with ⟨_ | _ | _, s'⟩ <;> rw [hrun] at hquery hown
    · exact hquery
    · exact hquery
    · dsimp only
      rcases o.confirm question s.operator with ⟨_ | _ | _, operator⟩
      · exact hquery
      · exact hquery
      · exact (hasDriver_actions hf as (hown.trans hd) other).trans hquery

theorem hasDriver_steps (hf : f.KeepsDrivers) {ts : List Step} {s : PassState σ π}
    (hd : ∀ u ∈ ts, f.hasDriver u.switch s.fleet = true) (other : String) :
    f.hasDriver other (steps f o ts s).2.fleet = f.hasDriver other s.fleet := by
  induction ts generalizing s with
  | nil => rfl
  | cons u ts ih =>
    obtain ⟨hu, hts⟩ := List.forall_mem_cons.1 hd
    have hstep := hasDriver_step o hf u hu
    rw [steps]
    rcases hrun : step f o u s with ⟨_ | _, s'⟩ <;> rw [hrun] at hstep
    · exact hstep other
    · exact (ih fun v hv => (hstep v.switch).trans (hts v hv)).trans (hstep other)

variable (f) in
theorem steps_append (ts us : List Step) (s : PassState σ π) :
    steps f o (ts ++ us) s =
      match steps f o ts s with
      | (.ok (), s) => steps f o us s
      | (.error e, s) => (.error e, s) := by
  rw [steps_eq_run, plan_append, Plan.run_andThen, ← steps_eq_run]
  rcases steps f o ts s with ⟨_ | _, s'⟩
  · rfl
  · exact (steps_eq_run f o us s').symm

/-- Visits to switches that all have drivers are the steps that are done there. -/
theorem visits_eq_steps (hf : f.KeepsDrivers) {vs : List Visit} (hstays : ∀ v ∈ vs, v.Stays) {s : PassState σ π}
    (hd : ∀ v ∈ vs, f.hasDriver v.switch s.fleet = true) :
    visits f o vs s = steps f o (vs.flatMap (·.steps)) s := by
  induction vs generalizing s with
  | nil => rfl
  | cons v vs ih =>
    obtain ⟨hv, hvs⟩ := List.forall_mem_cons.1 hd
    obtain ⟨hstay, hstays⟩ := List.forall_mem_cons.1 hstays
    have hdriver : ∀ u ∈ v.steps, f.hasDriver u.switch s.fleet = true := fun u hu => by rw [hstay u hu, hv]
    have hkept := hasDriver_steps o hf hdriver
    rw [visits, if_pos hv, List.flatMap_cons, steps_append]
    rcases hrun : steps f o v.steps s with ⟨e | _, s'⟩
    · rfl
    · rw [hrun] at hkept
      exact ih hstays fun w hw => (hkept w.switch).trans (hvs w hw)

variable (f)

/-- The calls of a pass do not fail for want of a driver. -/
theorem run_plan_ne_missingDriver (p : Plan) (s : PassState σ π) (label : String) :
    (p.run f o s).1 ≠ .error (.missingDriver label) := by
  intro h
  obtain ⟨es, -, ⟨hok, -⟩ | ⟨e, why, he, hrun, -⟩⟩ := Plan.outcome_cases f o p s
  · rw [hok] at h
    cases h
  · rw [hrun] at h
    obtain rfl := Except.error.inj h
    rcases e with ⟨_, _, _ | _⟩ | ⟨_, _ | _⟩ | ⟨_, _ | _⟩ <;> cases he

theorem run_eq_missingDriver_iff {t : Topology} {pass : List Step} {s : PassState σ π} {label : String} :
    (run f o t pass s).1 = .error (.missingDriver label) ↔ missingDriver f t.switches s.fleet = some label := by
  cases h : missingDriver f t.switches s.fleet with
  | some missing =>
    rw [run_of_missing f o h]
    simp
  | none =>
    rw [run_of_covered f o h]
    exact iff_of_false (run_plan_ne_missingDriver f o _ s label) nofun

end Pass

namespace Topology

variable {t : Topology} {v : Visit}

/-! ## The switches that the views mention -/

/-- Some view mentions a switch. -/
def Mentions (t : Topology) (label : String) : Prop :=
  label ∈ t.portVlans.keys ∨ label ∈ t.mtuPorts.keys ∨ (∃ g ∈ t.channelGroups, label ∈ g.members.keys) ∨
    ∃ p ∈ t.mlagPairs, ∃ m ∈ p.members, m.switch = label

theorem mem_switches_iff {label : String} : label ∈ t.switches ↔ t.Mentions label := by
  rw [mem_switches]
  simp [Mentions]

/-- The driver that is said to be missing is that of the least switch without one. -/
theorem missingDriver_eq_some_iff {σ : Type} {f : Fleet σ} {s : σ} {label : String} :
    Pass.missingDriver f t.switches s = some label ↔
      t.Mentions label ∧ f.hasDriver label s = false ∧
        ∀ other, t.Mentions other → f.hasDriver other s = false → ¬ other < label := by
  have hkeys (l : List (String × Unit)) (p : String → Bool) :
      (l.map Prod.fst).find? p = (l.find? fun e => p e.1).map Prod.fst := by
    rw [List.find?_map]
    rfl
  simp only [← mem_switches_iff]
  rw [Pass.missingDriver, switches, SortedMap.keys, hkeys, Option.map_eq_some_iff]
  simp only [Cluster.find?_entries_eq_some, List.mem_map]
  constructor
  · rintro ⟨e, ⟨hmem, hmissing, hleast⟩, rfl⟩
    refine ⟨⟨e, hmem, rfl⟩, by simpa using hmissing, ?_⟩
    rintro - ⟨e', hmem', rfl⟩ hmissing'
    simpa [OrderedKey.before] using hleast e' hmem' (by simpa using hmissing')
  · rintro ⟨⟨e, hmem, rfl⟩, hmissing, hleast⟩
    refine ⟨e, ⟨hmem, by simpa using hmissing, fun e' hmem' hmissing' => ?_⟩, rfl⟩
    simpa [OrderedKey.before] using hleast e'.1 ⟨e', hmem', rfl⟩ (by simpa using hmissing')

/-! ## The visits of a pass -/

/-- Configuring, visit by visit. -/
def configureVisits (t : Topology) : List Visit :=
  (t.portVlans.entries.map fun (switch, ports) => ⟨switch, trunkPorts switch [] ports.entries⟩) ++
  (t.mtuPorts.entries.map fun (switch, mtus) =>
    ⟨switch, mtus.entries.flatMap fun (mtu, ports) => ports.map fun port => .act switch (.setMtuForPort port mtu)⟩) ++
  (t.mlagPairs.flatMap fun p =>
    (p.members.map fun m => ⟨m.switch, [.whenMlag m.switch false [.configureMlag (m.params p.iplChannel)]]⟩) ++
      p.members.map fun m => ⟨m.switch, [.whenMlag m.switch true [.enableMlag]]⟩) ++
  t.channelGroups.flatMap fun g => g.members.entries.map fun (switch, groups) =>
    ⟨switch, (t.configureMember g switch groups).map (.act switch)⟩

/-- Deconfiguring, visit by visit. -/
def deconfigureVisits (t : Topology) : List Visit :=
  (t.channelGroups.flatMap fun g => g.members.entries.map fun (switch, groups) =>
    ⟨switch, removeChannels g switch groups⟩) ++
  (t.mlagPairs.flatMap fun p => p.members.map fun m =>
    ⟨m.switch, [.withConsent m.switch (teardownQuestion m.switch) [.deconfigureMlag]]⟩) ++
  ((t.portVlans.entries.map fun (switch, ports) => ⟨switch, releasePorts switch ports.entries⟩) ++
    t.portVlans.entries.map fun (switch, ports) =>
      ⟨switch, (newVlans [] ports.values.flatten).map fun v => .act switch (.deleteVlan v)⟩) ++
  t.mtuPorts.entries.map fun (switch, mtus) =>
    ⟨switch, mtus.values.flatten.map fun port => .act switch (.setMtuForPort port .reset)⟩

theorem flatMap_configureVisits (t : Topology) : t.configureVisits.flatMap (·.steps) = t.configure := by
  simp only [configureVisits, configure, configureVlans, configureMtus, configureMlag, configureChannels,
    List.flatMap_append, List.flatMap_map, List.flatMap_assoc]
  simp only [← List.map_eq_flatMap]
  rfl

theorem flatMap_deconfigureVisits (t : Topology) : t.deconfigureVisits.flatMap (·.steps) = t.deconfigure := by
  simp only [deconfigureVisits, deconfigure, deconfigureChannels, deconfigureMlag, deconfigureVlans, deconfigureMtus,
    List.flatMap_append, List.flatMap_map, List.flatMap_assoc]
  simp only [← List.map_eq_flatMap]

theorem mentions_of_mem_configureVisits (h : v ∈ t.configureVisits) : t.Mentions v.switch ∧ v.Stays := by
  rw [configureVisits, List.mem_append, List.mem_append, List.mem_append] at h
  rcases h with ((h | h) | h) | h
  · obtain ⟨⟨switch, ports⟩, hm, rfl⟩ := List.mem_map.1 h
    refine ⟨.inl (List.mem_map_of_mem hm), fun u hu => ?_⟩
    obtain ⟨port, vlans, -, ⟨w, -, rfl⟩ | rfl | rfl⟩ := mem_trunkPorts hu <;> rfl
  · obtain ⟨⟨switch, mtus⟩, hm, rfl⟩ := List.mem_map.1 h
    refine ⟨.inr (.inl (List.mem_map_of_mem hm)), fun u hu => ?_⟩
    obtain ⟨⟨mtu, ports⟩, -, hu⟩ := List.mem_flatMap.1 hu
    obtain ⟨port, -, rfl⟩ := List.mem_map.1 hu
    rfl
  · obtain ⟨p, hp, h⟩ := List.mem_flatMap.1 h
    have hmember (m : MlagMember) (hm : m ∈ p.members) : t.Mentions m.switch :=
      .inr (.inr (.inr ⟨p, hp, m, hm, rfl⟩))
    rcases List.mem_append.1 h with h | h <;>
    · obtain ⟨m, hm, rfl⟩ := List.mem_map.1 h
      refine ⟨hmember m hm, fun u hu => ?_⟩
      rw [List.mem_singleton.1 hu]
      rfl
  · obtain ⟨g, hg, h⟩ := List.mem_flatMap.1 h
    obtain ⟨⟨switch, groups⟩, hm, rfl⟩ := List.mem_map.1 h
    refine ⟨.inr (.inr (.inl ⟨g, hg, List.mem_map_of_mem hm⟩)), fun u hu => ?_⟩
    obtain ⟨a, -, rfl⟩ := List.mem_map.1 hu
    rfl

theorem mentions_of_mem_deconfigureVisits (h : v ∈ t.deconfigureVisits) : t.Mentions v.switch ∧ v.Stays := by
  rw [deconfigureVisits, List.mem_append, List.mem_append, List.mem_append, List.mem_append] at h
  rcases h with ((h | h) | h | h) | h
  · obtain ⟨g, hg, h⟩ := List.mem_flatMap.1 h
    obtain ⟨⟨switch, groups⟩, hm, rfl⟩ := List.mem_map.1 h
    refine ⟨.inr (.inr (.inl ⟨g, hg, List.mem_map_of_mem hm⟩)), fun u hu => ?_⟩
    obtain ⟨channels, rfl⟩ | ⟨channel, rfl⟩ := mem_removeChannels hu <;> rfl
  · obtain ⟨p, hp, h⟩ := List.mem_flatMap.1 h
    obtain ⟨m, hm, rfl⟩ := List.mem_map.1 h
    refine ⟨.inr (.inr (.inr ⟨p, hp, m, hm, rfl⟩)), fun u hu => ?_⟩
    rw [List.mem_singleton.1 hu]
    rfl
  · obtain ⟨⟨switch, ports⟩, hm, rfl⟩ := List.mem_map.1 h
    refine ⟨.inl (List.mem_map_of_mem hm), fun u hu => ?_⟩
    obtain ⟨⟨port, vlans⟩, -, hu⟩ := List.mem_flatMap.1 hu
    rcases List.mem_append.1 hu with hu | hu
    · obtain ⟨w, -, rfl⟩ := List.mem_map.1 hu
      rfl
    · rw [List.mem_singleton.1 hu]
      rfl
  · obtain ⟨⟨switch, ports⟩, hm, rfl⟩ := List.mem_map.1 h
    refine ⟨.inl (List.mem_map_of_mem hm), fun u hu => ?_⟩
    obtain ⟨w, -, rfl⟩ := List.mem_map.1 hu
    rfl
  · obtain ⟨⟨switch, mtus⟩, hm, rfl⟩ := List.mem_map.1 h
    refine ⟨.inr (.inl (List.mem_map_of_mem hm)), fun u hu => ?_⟩
    obtain ⟨port, -, rfl⟩ := List.mem_map.1 hu
    rfl

/-- The two passes with their visits. -/
def passes (t : Topology) : List (List Step × List Visit) :=
  [(t.configure, t.configureVisits), (t.deconfigure, t.deconfigureVisits)]

/-- A pass that takes its drivers one by one ends as one that takes them for granted. -/
theorem runVisits_eq_run {σ π : Type} {f : Fleet σ} (o : Operator π) (hf : f.KeepsDrivers)
    {pass : List Step} {vs : List Visit} (h : (pass, vs) ∈ t.passes) (s : PassState σ π) :
    Pass.runVisits f o t vs s = Pass.run f o t pass s := by
  obtain ⟨hvisits, rfl⟩ : (∀ v ∈ vs, t.Mentions v.switch ∧ v.Stays) ∧ vs.flatMap (·.steps) = pass := by
    simp only [passes, List.mem_cons, List.not_mem_nil, or_false] at h
    rcases h with h | h <;> obtain ⟨rfl, rfl⟩ := Prod.ext_iff.1 h
    · exact ⟨fun v => mentions_of_mem_configureVisits, flatMap_configureVisits t⟩
    · exact ⟨fun v => mentions_of_mem_deconfigureVisits, flatMap_deconfigureVisits t⟩
  rw [Pass.runVisits, Pass.run]
  cases hmissing : Pass.missingDriver f t.switches s.fleet with
  | some label => rfl
  | none =>
    exact Pass.visits_eq_steps o hf (fun v hv => (hvisits v hv).2) fun v hv =>
      (Pass.missingDriver_eq_none_iff f).1 hmissing v.switch (mem_switches_iff.2 (hvisits v hv).1)

end Topology

/-! ## Fleets -/

/-- Drivers in a map stay where they are. -/
theorem Fleet.keepsDrivers_of_map {σ δ : Type} {f : Fleet σ} {drivers : SortedMap String δ}
    (h : ∀ label s, f.hasDriver label s = drivers.contains label) : f.KeepsDrivers where
  act _ _ _ := by rw [h, h]
  query _ _ := by rw [h, h]

namespace Recording

theorem contains_after_eq {r : Recording} {c : RecordedCall} (hc : r.switches.contains c.switch = true)
    (label : String) : (r.after c).switches.contains label = r.switches.contains label := by
  obtain ⟨l, _ | a⟩ := c
  · rfl
  · show (SortedMap.get? (r.switches.insert l _) label).isSome = _
    rw [SortedMap.get?_insert]
    split
    · next heq =>
      subst heq
      exact hc.symm
    · rfl

theorem keepsDrivers : fleet.KeepsDrivers where
  act {label r} a other hd := by
    rw [act_eq]
    split
    · rfl
    · exact contains_after_eq (c := ⟨label, .act a⟩) hd other
  query {label r} other hd := by
    rw [isMlagConfigured_eq]
    split
    · rfl
    · exact contains_after_eq (c := ⟨label, .isMlagConfigured⟩) hd other

end Recording

/-! ## Passes -/

namespace Topology

/-- A pass fails for want of a driver just if the views mention a switch without one. It names the least such switch,
and nothing happens, nor does anything change. It never misses a driver later, when it takes the drivers one by one. And
over the views of a definition whose switches were all connected to, it misses none at all. -/
theorem drivers_checked_first (t : Topology) :
    (∀ {σ π : Type} (f : Fleet σ) (o : Operator π) (s : PassState σ π), ∀ p ∈ t.passes,
      ((∃ label, (Pass.run f o t p.1 s).1 = .error (.missingDriver label)) ↔
        ∃ label, t.Mentions label ∧ f.hasDriver label s.fleet = false) ∧
      (∀ label, (Pass.run f o t p.1 s).1 = .error (.missingDriver label) →
        (t.Mentions label ∧ f.hasDriver label s.fleet = false ∧
          ∀ other, t.Mentions other → f.hasDriver other s.fleet = false → label ≤ other) ∧
        (Pass.run f o t p.1 s).2 = s ∧ Pass.events f o t p.1 s = []) ∧
      (f.KeepsDrivers → Pass.runVisits f o t p.2 s = Pass.run f o t p.1 s)) ∧
    ∀ c : Cluster, c.check = .ok () → c.topology = .ok t →
      ∀ {δ : Type} (r : Registry δ) (drivers : SortedMap String δ), r.connect c.accessInfo = .ok drivers →
      ∀ {σ π : Type} (f : Fleet σ), (∀ label s, f.hasDriver label s = drivers.contains label) →
      ∀ (o : Operator π) (s : PassState σ π), ∀ p ∈ t.passes, ∀ label,
        (Pass.run f o t p.1 s).1 ≠ .error (.missingDriver label) := by
  constructor
  · intro σ π f o s p hp
    refine ⟨?_, fun label hrun => ?_, fun hf => runVisits_eq_run o hf hp s⟩
    · simp only [Pass.run_eq_missingDriver_iff]
      rw [← Option.isSome_iff_exists, Pass.missingDriver, List.find?_isSome]
      simp only [mem_switches_iff, Bool.not_eq_true']
    · have hmissing := (Pass.run_eq_missingDriver_iff f o).1 hrun
      obtain ⟨hmentions, hnone, hleast⟩ := missingDriver_eq_some_iff.1 hmissing
      refine ⟨⟨hmentions, hnone, fun other hother hnone' => String.not_lt.1 (hleast other hother hnone')⟩, ?_, ?_⟩
      · rw [Pass.run_of_missing f o hmissing]
      · exact Pass.events_of_missing f o hmissing _
  · intro c hcheck ht δ r drivers hconnect σ π f hf o s p hp label hrun
    rw [Pass.run_eq_missingDriver_iff,
      (Cluster.checked_of_check hcheck).missingDriver_eq_none ht hconnect hf s.fleet] at hrun
    cases hrun

/-- A driver for the peer alone is not enough on the pair of the scenario, and a connection to both switches is. -/
theorem drivers_checked_first_mlagPair :
    let t := Scenario.mlagPair.topology
    let s : PassState Recording Script := ⟨Recording.start (.ofList [("data_2", .plain)]), ⟨[], []⟩⟩
    (Pass.run Recording.fleet Script.operator t t.configure s).1 = .error (.missingDriver "data_1") ∧
      (Pass.run Recording.fleet Script.operator t t.configure s).2 = s ∧
      Pass.runVisits Recording.fleet Script.operator t t.configureVisits s =
        Pass.run Recording.fleet Script.operator t t.configure s ∧
      ∃ drivers, Registry.builtIn.connect Scenario.mlagPair.cluster.accessInfo = .ok drivers ∧
        ∀ (net : Network Unit) (m : Machine Unit),
          let run := Pass.run (Fleet.ofDrivers net drivers) Script.operator t t.deconfigure ⟨m, ⟨[], []⟩⟩
          Pass.runVisits (Fleet.ofDrivers net drivers) Script.operator t t.deconfigureVisits ⟨m, ⟨[], []⟩⟩ = run ∧
            ∀ label, run.1 ≠ .error (.missingDriver label) := by
  intro t s
  obtain ⟨hall, hconnected⟩ := drivers_checked_first t
  have hconfigure : (t.configure, t.configureVisits) ∈ t.passes := List.mem_cons_self
  have hdeconfigure : (t.deconfigure, t.deconfigureVisits) ∈ t.passes := List.mem_cons_of_mem _ List.mem_cons_self
  obtain ⟨-, hmissing, hvisits⟩ := hall Recording.fleet Script.operator s _ hconfigure
  have hrun : (Pass.run Recording.fleet Script.operator t t.configure s).1 = .error (.missingDriver "data_1") := by
    decide +kernel
  obtain ⟨drivers, hconnect⟩ : ∃ drivers, Registry.builtIn.connect Scenario.mlagPair.cluster.accessInfo = .ok drivers :=
    ⟨(Registry.builtIn.connect Scenario.mlagPair.cluster.accessInfo).toOption.getD .empty, by decide +kernel⟩
  have hcheck : Scenario.mlagPair.cluster.check = .ok () := by decide +kernel
  refine ⟨hrun, (hmissing "data_1" hrun).2.1, hvisits Recording.keepsDrivers, drivers, hconnect, fun net m => ?_⟩
  have hmap (label : String) (m : Machine Unit) :
      (Fleet.ofDrivers net drivers).hasDriver label m = drivers.contains label := rfl
  obtain ⟨-, -, hvisits'⟩ := hall (Fleet.ofDrivers net drivers) Script.operator ⟨m, ⟨[], []⟩⟩ _ hdeconfigure
  refine ⟨hvisits' (Fleet.keepsDrivers_of_map hmap), ?_⟩
  exact hconnected Scenario.mlagPair.cluster hcheck (Scenario.topology_cluster .mlagPair) Registry.builtIn drivers hconnect
    (Fleet.ofDrivers net drivers) hmap Script.operator ⟨m, ⟨[], []⟩⟩ _ hdeconfigure

end Topology

end SwitchFabric
