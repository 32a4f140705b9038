import SwitchFabric.Cluster.Builder
import SwitchFabric.Proofs.Onyx.Modes
import SwitchFabric.Proofs.Recording.Blind
import SwitchFabric.Proofs.Registry

/-!
# Passes by drivers that collect

Drivers that collect in a file each (`Collecting`) bring every pass to its end, and show no MLAG: what is in the
files after it are the lines of the calls that are made where none is found (`Collecting.steps`). These are the
drivers that passive switches get (`connect_of_passive`).

So configuring passive switches collects the commands for what recording switches without MLAG record, but MLAG is not
enabled (`passive_configure_collects`, `passive_configure_without_enabling`).
-/

namespace SwitchFabric.Onyx

open Recording (actionsOn actionsOn_append)

variable {ν π : Type}

/-- The lines that calls put into the file of a driver that collects. -/
def linesOf (as : List Action) : List UInt8 :=
  ((as.map Call.act).flatMap commandsOf).flatMap fun c => Text.encode (c ++ "\n")

theorem linesOf_append (as bs : List Action) : linesOf (as ++ bs) = linesOf as ++ linesOf bs := by
  simp [linesOf]

/-- Drivers that collect in files at places of their own. -/
structure Collecting (drivers : SortedMap String Driver) (place : String → Place) (f : Files) : Prop where
  writable : ∀ {label d}, drivers.get? label = some d →
    ∃ host path, d = collector host path ∧ f.Writable path (place label)
  separate : ∀ {label label' d d'}, drivers.get? label = some d → drivers.get? label' = some d' →
    (place label).toText = (place label').toText → label = label'

/-- Between two states of the machine, the lines of calls were put at the end of the files of their switches. -/
structure Written (drivers : SortedMap String Driver) (place : String → Place) (m m' : Machine ν)
    (cs : List RecordedCall) : Prop where
  directories : m'.files.directories = m.files.directories
  bytes : ∀ {label d}, drivers.get? label = some d →
    m'.files.bytesAt (place label) = m.files.bytesAt (place label) ++ linesOf (actionsOn label cs)

variable {drivers : SortedMap String Driver} {place : String → Place} {m m' m'' : Machine ν}
  {cs ds : List RecordedCall}

theorem Written.nil (drivers : SortedMap String Driver) (place : String → Place) (m : Machine ν) :
    Written drivers place m m [] := ⟨rfl, fun _ => (List.append_nil _).symm⟩

theorem Written.query (drivers : SortedMap String Driver) (place : String → Place) (m : Machine ν) (label : String) :
    Written drivers place m m [⟨label, .isMlagConfigured⟩] := ⟨rfl, fun _ => (List.append_nil _).symm⟩

theorem Written.trans (h : Written drivers place m m' cs) (h' : Written drivers place m' m'' ds) :
    Written drivers place m m'' (cs ++ ds) := by
  refine ⟨h'.directories.trans h.directories, fun hd => ?_⟩
  rw [h'.bytes hd, h.bytes hd, actionsOn_append, linesOf_append, List.append_assoc]

namespace Collecting

theorem congr (h : Collecting drivers place m.files) (hcs : Written drivers place m m' cs) :
    Collecting drivers place m'.files where
  writable hd := by
    obtain ⟨host, path, rfl, hwritable⟩ := h.writable hd
    exact ⟨host, path, rfl, hwritable.congr hcs.directories⟩
  separate := h.separate

variable (net : Network ν)

/-- No MLAG is found. -/
theorem isMlagConfigured (h : Collecting drivers place m.files) (label : String) :
    (Fleet.ofDrivers net drivers).isMlagConfigured label m = (.ok false, m) := by
  simp only [Fleet.ofDrivers]
  cases hd : drivers.get? label with
  | none => rfl
  | some d =>
    obtain ⟨host, path, rfl, -⟩ := h.writable hd
    rfl

theorem act (h : Collecting drivers place m.files) (label : String) (a : Action) :
    ∃ m', (Fleet.ofDrivers net drivers).act label a m = (.ok (), m') ∧
      Written drivers place m m' [⟨label, .act a⟩] := by
  simp only [Fleet.ofDrivers]
  cases hd : drivers.get? label with
  | none =>
    refine ⟨m, rfl, rfl, fun {label' d} hd' => ?_⟩
    have hne : label ≠ label' := fun heq => by simp [heq, hd'] at hd
    simp [actionsOn, hne, linesOf]
  | some d =>
    obtain ⟨host, path, rfl, hwritable⟩ := h.writable hd
    obtain ⟨hok, hcollected⟩ := collected_run net host hwritable (moves a)
    -- Only the file of this switch grows: the other drivers have theirs elsewhere.
    refine ⟨_, Prod.ext hok rfl, hcollected.directories, fun {label' d'} hd' => ?_⟩
    dsimp only
    rw [Driver.act, hcollected.bytes]
    by_cases hl : label = label'
    · subst hl
      simp [actionsOn, linesOf, commandsOf]
    · have hplace : (place label').toText ≠ (place label).toText := fun heq => hl (h.separate hd hd' heq.symm)
      simp [actionsOn, hl, hplace, linesOf]

theorem actions (h : Collecting drivers place m.files) (label : String) (as : List Action) :
    ∃ m', Pass.actions (Fleet.ofDrivers net drivers) label as m = (.ok (), m') ∧
      Written drivers place m m' (as.map (⟨label, .act ·⟩)) := by
  induction as generalizing m with
  | nil => exact ⟨m, rfl, .nil drivers place m⟩
  | cons a as ih =>
    obtain ⟨m₁, hact, hwritten⟩ := h.act net label a
    obtain ⟨m₂, hactions, hwritten'⟩ := ih (h.congr hwritten)
    refine ⟨m₂, ?_, hwritten.trans hwritten'⟩
    rw [Pass.actions, hact]
    exact hactions

variable (o : Operator π)

theorem step (h : Collecting drivers place m.files) (t : Step) (operator : π) :
    ∃ m', Pass.step (Fleet.ofDrivers net drivers) o t ⟨m, operator⟩ = (.ok (), ⟨m', operator⟩) ∧
      Written drivers place m m' t.blindCalls := by
  cases t with
  | act label a =>
    obtain ⟨m', hactions, hwritten⟩ := h.actions net label [a]
    exact ⟨m', by rw [Pass.step, hactions], hwritten⟩
  | whenMlag label configured as =>
    rw [Pass.step, h.isMlagConfigured net]
    cases configured with
    | true => exact ⟨m, rfl, .query drivers place m label⟩
    | false =>
      obtain ⟨m', hactions, hwritten⟩ := h.actions net label as
      refine ⟨m', ?_, (Written.query drivers place m label).trans hwritten⟩
      simp [hactions]
  | withConsent label question as =>
    rw [Pass.step, h.isMlagConfigured net]
    exact ⟨m, rfl, .query drivers place m label⟩

/-- Steps end well, and the files have the lines of the calls that are made where no MLAG is found. -/
theorem steps (h : Collecting drivers place m.files) (ts : List Step) (operator : π) :
    ∃ m', Pass.steps (Fleet.ofDrivers net drivers) o ts ⟨m, operator⟩ = (.ok (), ⟨m', operator⟩) ∧
      Written drivers place m m' (ts.flatMap Step.blindCalls) := by
  induction ts generalizing m with
  | nil => exact ⟨m, rfl, .nil drivers place m⟩
  | cons t ts ih =>
    obtain ⟨m₁, hstep, hwritten⟩ := h.step net o t operator
    obtain ⟨m₂, hsteps, hwritten'⟩ := ih (h.congr hwritten)
    refine ⟨m₂, ?_, hwritten.trans hwritten'⟩
    rw [Pass.steps, hstep]
    exact hsteps

end Collecting

/-! ## Passive switches -/

end SwitchFabric.Onyx

namespace SwitchFabric

open Onyx (Driver collector)

namespace Registry

/-- The vendor of this library's driver is found by its name in any letter case. -/
theorem create_builtIn {a : AccessInfo} (h : Text.lowercase a.vendor = Onyx.vendor) :
    builtIn.create a = Driver.ofAccess a := by
  have hvendor : Text.lowercase Onyx.vendor = Onyx.vendor := by decide +kernel
  rw [create, h, builtIn, register, hvendor, SortedMap.get?_insert, if_pos rfl]

end Registry

namespace Cluster

variable {c : Cluster}

/-- All switches are driven by this library's driver, in passive mode. -/
def AllPassive (c : Cluster) : Prop :=
  ∀ a ∈ c.accessInfo, a.mode = .passive ∧ Text.lowercase a.vendor = Onyx.vendor

/-- The command files of the switches are different files that can be written. -/
structure SeparateFiles (c : Cluster) (place : String → Place) (f : Files) : Prop where
  writable : ∀ a ∈ c.accessInfo, f.Writable a.commandFile (place a.label)
  separate : ∀ a ∈ c.accessInfo, ∀ b ∈ c.accessInfo,
    (place a.label).toText = (place b.label).toText → a.label = b.label

theorem ofAccess_of_passive {a : AccessInfo} (h : a.mode = .passive) :
    Driver.ofAccess a = .ok (collector a.host a.commandFile) := by
  rw [Driver.ofAccess, Delivery.ofAccess, h]
  rfl

/-- Passive switches get drivers that collect. -/
theorem Checked.connect_of_passive (h : c.Checked) (hpassive : c.AllPassive) {place : String → Place} {f : Files}
    (hfiles : c.SeparateFiles place f) :
    ∃ drivers, Registry.builtIn.connect c.accessInfo = .ok drivers ∧ Onyx.Collecting drivers place f ∧
      ∀ a ∈ c.accessInfo, drivers.get? a.label = some (collector a.host a.commandFile) := by
  have hcreate : ∀ a ∈ c.accessInfo, Registry.builtIn.create a = .ok (collector a.host a.commandFile) := by
    intro a ha
    obtain ⟨hmode, hvendor⟩ := hpassive a ha
    rw [Registry.create_builtIn hvendor, ofAccess_of_passive hmode]
  obtain ⟨drivers, hconnect⟩ := Registry.exists_connectAll (fun a ha => ⟨_, hcreate a ha⟩) .empty
  obtain ⟨hmade, hother⟩ := Registry.get?_connectAll hconnect h.nodup_accessInfo
  have hget : ∀ a ∈ c.accessInfo, drivers.get? a.label = some (collector a.host a.commandFile) := by
    intro a ha
    obtain ⟨d, hd, hget⟩ := hmade a ha
    rw [hcreate a ha] at hd
    cases hd
    exact hget
  have hswitch {label : String} {d : Driver} (hd : drivers.get? label = some d) :
      ∃ a ∈ c.accessInfo, a.label = label ∧ d = collector a.host a.commandFile := by
    by_cases hl : label ∈ c.accessInfo.map (·.label)
    · obtain ⟨a, ha, rfl⟩ := List.mem_map.1 hl
      rw [hget a ha] at hd
      exact ⟨a, ha, rfl, (Option.some.inj hd).symm⟩
    · rw [hother label hl] at hd
      cases hd
  refine ⟨drivers, hconnect, ⟨fun hd => ?_, fun hd hd' hplace => ?_⟩, hget⟩
  · obtain ⟨a, ha, rfl, rfl⟩ := hswitch hd
    exact ⟨_, _, rfl, hfiles.writable a ha⟩
  · obtain ⟨a, ha, rfl, -⟩ := hswitch hd
    obtain ⟨b, hb, rfl, -⟩ := hswitch hd'
    exact hfiles.separate a ha b hb hplace

/-- A pass over passive switches ends well, and their files have the lines of the calls that are made where no MLAG
is found. -/
theorem Checked.run_of_passive (h : c.Checked) {t : Topology} (ht : c.topology = .ok t) (hpassive : c.AllPassive)
    {ν π : Type} {m : Machine ν} {place : String → Place} (hfiles : c.SeparateFiles place m.files) (net : Network ν)
    (o : Operator π) (pass : List Step) (operator : π) :
    ∃ drivers, Registry.builtIn.connect c.accessInfo = .ok drivers ∧
      ∃ m', Pass.run (Fleet.ofDrivers net drivers) o t pass ⟨m, operator⟩ = (.ok (), ⟨m', operator⟩) ∧
        ∀ a ∈ c.accessInfo, m'.files.bytesAt (place a.label) =
          m.files.bytesAt (place a.label) ++
            Onyx.linesOf (Recording.actionsOn a.label (pass.flatMap Step.blindCalls)) := by
  obtain ⟨drivers, hconnect, hcollecting, hget⟩ := h.connect_of_passive hpassive hfiles
  obtain ⟨m', hsteps, hwritten⟩ := hcollecting.steps net o pass operator
  have hcovered : Pass.missingDriver (Fleet.ofDrivers net drivers) t.switches m = none :=
    h.missingDriver_eq_none ht hconnect (fun _ _ => rfl) m
  refine ⟨drivers, hconnect, m', ?_, fun a ha => hwritten.bytes (hget a ha)⟩
  rw [Pass.run, hcovered]
  exact hsteps

/-- Configuring passive switches ends well. To the command file of each it adds what the switch's driver collects for
the calls, in their order, that the same pass has a recording switch without MLAG record, besides those that enable
MLAG: a passive switch never shows the MLAG that it was given. They are made on the members of the pairs. A switch that
names itself as its peer, which the checks let pass, is left out here: it would be given MLAG twice. -/
theorem passive_configure_collects (hcheck : c.check = .ok ()) {t : Topology} (ht : c.topology = .ok t)
    (htwo : ∀ label, c.mlagPeer label ≠ some label) (hpassive : c.AllPassive)
    {ν π : Type} {m : Machine ν} {place : String → Place} (hfiles : c.SeparateFiles place m.files)
    {switches : SortedMap String RecordingSwitch} (hfresh : Recording.Fresh c switches) (net : Network ν)
    (o : Operator π) (operator : π) :
    ∃ drivers, Registry.builtIn.connect c.accessInfo = .ok drivers ∧
      let collected := Pass.run (Fleet.ofDrivers net drivers) o t t.configure ⟨m, operator⟩
      let recorded := Pass.run Recording.fleet o t t.configure ⟨Recording.start switches, operator⟩
      collected.1 = .ok () ∧ recorded.1 = .ok () ∧
      ∀ a ∈ c.accessInfo, ∃ d, Driver.ofAccess a = .ok d ∧
        let actions := Recording.actionsOn a.label recorded.2.fleet.log
        let alone := d.calls net ((actions.filter (· ≠ .enableMlag)).map .act) m
        alone.1 = .ok () ∧
          collected.2.fleet.files.bytesAt (place a.label) = alone.2.files.bytesAt (place a.label) ∧
          (.enableMlag ∈ actions ↔ a.label ∈ t.memberLabels) := by
  have h := checked_of_check hcheck
  obtain ⟨drivers, hconnect, m', hrun, hbytes⟩ := h.run_of_passive ht hpassive hfiles net o t.configure operator
  obtain ⟨hok, hlog, -⟩ := hfresh.configure h ht o operator
  refine ⟨drivers, hconnect, congrArg Prod.fst hrun, hok, fun a ha => ?_⟩
  obtain ⟨halone, hcollected⟩ := Onyx.collected_calls net a.host (hfiles.writable a ha)
    (((Recording.actionsOn a.label ((Pass.plan t.configure).calls fun _ => false)).filter (· ≠ .enableMlag)).map .act)
  refine ⟨collector a.host a.commandFile, ofAccess_of_passive (hpassive a ha).1, ?_⟩
  rw [hlog, hrun]
  refine ⟨halone, ?_, t.enableMlag_mem_configure _ a.label⟩
  rw [hbytes a ha, hcollected.bytes, if_pos rfl, ← t.actionsOn_configure (h.nodup_memberLabels ht htwo)]
  rfl

/-- The places of the command files that are not named in a definition. -/
def ownPlace (label : String) : Place := ⟨false, ["switch_cmds_" ++ label ++ ".txt"]⟩

theorem allPassive_mlagPair : Scenario.mlagPair.cluster.AllPassive := by
  unfold AllPassive
  decide +kernel

theorem separateFiles_mlagPair : Scenario.mlagPair.cluster.SeparateFiles ownPlace .empty :=
  ⟨by decide +kernel, by decide +kernel⟩

/-- On the pair of the scenario the file of the master has the lines of all but one of 19 actions. -/
theorem passive_configure_collects_mlagPair :
    let t := Scenario.mlagPair.topology
    let a : AccessInfo := ⟨"data_1", "mellanox", "192.168.5.20", some "admin", none, .passive, none⟩
    let m : Machine Unit := ⟨.empty, (), []⟩
    let net : Network Unit := ⟨fun _ s => (.ofCode 0, s)⟩
    let switches := SortedMap.ofList [("data_1", .plain), ("data_2", .plain)]
    let recorded := Pass.run Recording.fleet Script.operator t t.configure ⟨Recording.start switches, ⟨[], []⟩⟩
    let actions := Recording.actionsOn a.label recorded.2.fleet.log
    .enableMlag ∈ actions ∧ actions.length = 19 ∧
      ∃ drivers d, Registry.builtIn.connect Scenario.mlagPair.cluster.accessInfo = .ok drivers ∧
        Driver.ofAccess a = .ok d ∧
        let collected := Pass.run (Fleet.ofDrivers net drivers) Script.operator t t.configure ⟨m, ⟨[], []⟩⟩
        collected.2.fleet.files.bytesAt (ownPlace a.label) =
          (d.calls net ((actions.filter (· ≠ .enableMlag)).map .act) m).2.files.bytesAt (ownPlace a.label) := by
  intro t a m net switches recorded actions
  have hfresh : Recording.Fresh Scenario.mlagPair.cluster switches := ⟨by decide +kernel, by decide +kernel⟩
  obtain ⟨drivers, hconnect, -, -, hall⟩ := passive_configure_collects (c := Scenario.mlagPair.cluster) rfl
    (Scenario.topology_cluster .mlagPair) (mlagPeer_ne_self (by decide +kernel)) allPassive_mlagPair (m := m)
    separateFiles_mlagPair hfresh net Script.operator ⟨[], []⟩
  obtain ⟨d, haccess, -, hbytes, henable⟩ := hall a (by decide +kernel)
  have henabled : .enableMlag ∈ actions := by
    with_reducible exact henable.2 (by decide +kernel)
  refine ⟨henabled, by decide +kernel, drivers, d, hconnect, haccess, ?_⟩
  with_reducible exact hbytes

/-- On the pair of the scenario the file of the master is not what its driver collects for all calls of the recording
switch, which enable MLAG. -/
theorem passive_configure_without_enabling :
    let c := Scenario.mlagPair.cluster
    let t := Scenario.mlagPair.topology
    let a : AccessInfo := ⟨"data_1", "mellanox", "192.168.5.20", some "admin", none, .passive, none⟩
    let m : Machine Unit := ⟨.empty, (), []⟩
    let net : Network Unit := ⟨fun _ s => (.ofCode 0, s)⟩
    let switches := SortedMap.ofList [("data_1", .plain), ("data_2", .plain)]
    let recorded := Pass.run Recording.fleet Script.operator t t.configure ⟨Recording.start switches, ⟨[], []⟩⟩
    let actions := Recording.actionsOn a.label recorded.2.fleet.log
    c.check = .ok () ∧ c.topology = .ok t ∧ c.AllPassive ∧ c.SeparateFiles ownPlace m.files ∧
      Recording.Fresh c switches ∧ a ∈ c.accessInfo ∧
      ∃ drivers d, Registry.builtIn.connect c.accessInfo = .ok drivers ∧ Driver.ofAccess a = .ok d ∧
        let collected := Pass.run (Fleet.ofDrivers net drivers) Script.operator t t.configure ⟨m, ⟨[], []⟩⟩
        collected.1 = .ok () ∧
          collected.2.fleet.files.bytesAt (ownPlace a.label) ≠
            (d.calls net (actions.map .act) m).2.files.bytesAt (ownPlace a.label) := by
  intro c t a m net switches recorded actions
  have ha : a ∈ c.accessInfo := by decide +kernel
  have hcheck : c.check = .ok () := rfl
  have hfresh : Recording.Fresh c switches := ⟨by decide +kernel, by decide +kernel⟩
  obtain ⟨drivers, hconnect, m', hrun, hbytes⟩ := (checked_of_check hcheck).run_of_passive
    (Scenario.topology_cluster .mlagPair) allPassive_mlagPair (m := m) separateFiles_mlagPair net Script.operator
    t.configure ⟨[], []⟩
  obtain ⟨-, hcollected⟩ := Onyx.collected_calls (m := m) net a.host (separateFiles_mlagPair.writable a ha)
    (actions.map .act)
  have hlines : (Onyx.linesOf (Recording.actionsOn a.label (t.configure.flatMap Step.blindCalls))).length ≠
      (Onyx.linesOf actions).length := by
    decide +kernel
  refine ⟨hcheck, Scenario.topology_cluster .mlagPair, allPassive_mlagPair, separateFiles_mlagPair, hfresh, ha, drivers,
    collector a.host a.commandFile, hconnect, rfl, congrArg Prod.fst hrun, fun heq => hlines ?_⟩
  rw [hrun, hbytes a ha, hcollected.bytes, if_pos rfl] at heq
  exact congrArg List.length (List.append_cancel_left heq)

end Cluster

end SwitchFabric
