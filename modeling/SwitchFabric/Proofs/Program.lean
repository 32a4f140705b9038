import SwitchFabric.Program
import SwitchFabric.Proofs.Registry

/-!
# Nothing is delivered before all is planned

The program comes to one of five ends (`Carried`, `carried_carryOut`). In four of them it has only read the cluster
definition: the definition does not load, its topology cannot be derived, the topology is printed, or the driver of some
switch cannot be made. Only in the fifth, with the whole topology at hand and a driver for each switch, is there a pass
over the switches, and it starts on the machine as it was found (`delivered_after_planning`).
-/

namespace SwitchFabric

namespace Cluster

/-- A definition that is read from a text has passed its checks. -/
theorem check_of_ofText {text : String} {c : Cluster} (h : ofText text = .ok c) : c.check = .ok () := by
  obtain ⟨c', -, h⟩ := bind_eq_ok.1 h
  obtain ⟨⟨⟩, hcheck, h⟩ := bind_eq_ok.1 h
  cases h
  exact hcheck

/-- The switches of a definition that loads have different labels. -/
theorem nodup_of_ofFile {files : Files} {path : String} {c : Cluster} (h : ofFile files path = .ok c) :
    (c.accessInfo.map (·.label)).Nodup := by
  rw [ofFile] at h
  split at h
  · exact (checked_of_check (check_of_ofText h)).nodup_accessInfo
  · cases h

end Cluster

namespace Program

variable {ν : Type} (net : Network ν)

/-! ## How the program ends -/

/-- What comes of a goal and the cluster definition at a path. -/
inductive Carried (goal : Goal) (path : String) (s : Session ν) : Outcome → Session ν → Prop
  | notLoaded {e} (h : Cluster.ofFile s.machine.files path = .error e) :
    Carried goal path s (.failed (.load path e)) s
  | notDerived {c e} (hc : Cluster.ofFile s.machine.files path = .ok c) (ht : c.topology = .error e) :
    Carried goal path s (.failed (.aggregate e)) s
  | printed {c t} (hc : Cluster.ofFile s.machine.files path = .ok c) (ht : c.topology = .ok t)
    (hgoal : goal = .gather) : Carried goal path s .done { s with printed := t.toValue.print ++ "\n" }
  | notConnected {c t before a after e} (hc : Cluster.ofFile s.machine.files path = .ok c) (ht : c.topology = .ok t)
    (hgoal : goal ≠ .gather) (has : c.accessInfo = before ++ a :: after)
    (hbefore : ∀ b ∈ before, ∃ d, Registry.builtIn.create b = .ok d) (ha : Registry.builtIn.create a = .error e) :
    Carried goal path s (.failed (.connect (.factory a.label e))) s
  | passed {c t drivers} (hc : Cluster.ofFile s.machine.files path = .ok c) (ht : c.topology = .ok t)
    (hgoal : goal ≠ .gather) (hdrivers : Registry.builtIn.connect c.accessInfo = .ok drivers) :
    Carried goal path s (pass net goal t drivers s).1 (pass net goal t drivers s).2

theorem carried_carryOut (goal : Goal) (path : String) (s : Session ν) :
    Carried net goal path s (carryOut net goal path s).1 (carryOut net goal path s).2 := by
  rw [carryOut]
  cases hc : Cluster.ofFile s.machine.files path with
  | error e => exact .notLoaded hc
  | ok c =>
    cases ht : c.topology with
    | error e =>
      simp only [Except.mapError, aggregate, ht]
      exact .notDerived hc ht
    | ok t =>
      simp only [Except.mapError, aggregate, ht]
      by_cases hgoal : goal = .gather
      · rw [if_pos (by simpa using hgoal)]
        exact .printed hc ht hgoal
      · rw [if_neg (by simpa using hgoal)]
        rcases Registry.connectAll_cases Registry.builtIn c.accessInfo .empty with
          ⟨drivers, hdrivers⟩ | ⟨before, a, after, e, has, hbefore, ha, herror⟩
        · simp only [connect, Registry.connect, hdrivers, Except.mapError]
          exact .passed hc ht hgoal hdrivers
        · simp only [connect, Registry.connect, herror, Except.mapError]
          exact .notConnected hc ht hgoal has hbefore ha

namespace Carried

variable {net} {goal : Goal} {path : String} {s after : Session ν} {outcome : Outcome} {c : Cluster} {t : Topology}

/-- A definition that does not load ends everything. -/
theorem of_notLoaded (h : Carried net goal path s outcome after) {e : ConfigError}
    (he : Cluster.ofFile s.machine.files path = .error e) : outcome = .failed (.load path e) ∧ after = s := by
  cases h with
  | notLoaded hc =>
    cases hc.symm.trans he
    exact ⟨rfl, rfl⟩
  | notDerived hc _ | printed hc _ _ | notConnected hc _ _ _ _ _ | passed hc _ _ _ => cases hc.symm.trans he

/-- So does a definition without a topology. -/
theorem of_notDerived (h : Carried net goal path s outcome after) (hc : Cluster.ofFile s.machine.files path = .ok c)
    {e : ConfigError} (he : c.topology = .error e) : outcome = .failed (.aggregate e) ∧ after = s := by
  cases h with
  | notLoaded hc' => cases hc'.symm.trans hc
  | notDerived hc' he' =>
    cases hc'.symm.trans hc
    cases he'.symm.trans he
    exact ⟨rfl, rfl⟩
  | printed hc' ht _ | notConnected hc' ht _ _ _ _ | passed hc' ht _ _ =>
    cases hc'.symm.trans hc
    cases ht.symm.trans he

/-- A topology that is to be printed is. -/
theorem of_gather (h : Carried net goal path s outcome after) (hc : Cluster.ofFile s.machine.files path = .ok c)
    (ht : c.topology = .ok t) (hgoal : goal = .gather) :
    outcome = .done ∧ after = { s with printed := t.toValue.print ++ "\n" } := by
  cases h with
  | notLoaded hc' => cases hc'.symm.trans hc
  | notDerived hc' he =>
    cases hc'.symm.trans hc
    cases he.symm.trans ht
  | printed hc' ht' _ =>
    cases hc'.symm.trans hc
    cases ht'.symm.trans ht
    exact ⟨rfl, rfl⟩
  | notConnected _ _ hne _ _ _ | passed _ _ hne _ => exact absurd hgoal hne

/-- Otherwise one switch without a driver is enough to end everything. -/
theorem of_notConnected (h : Carried net goal path s outcome after)
    (hc : Cluster.ofFile s.machine.files path = .ok c) (ht : c.topology = .ok t) (hgoal : goal ≠ .gather)
    {a : AccessInfo} (ha : a ∈ c.accessInfo) {e : SwitchError} (he : Registry.builtIn.create a = .error e) :
    ∃ before first later e', c.accessInfo = before ++ first :: later ∧
      (∀ b ∈ before, ∃ d, Registry.builtIn.create b = .ok d) ∧ Registry.builtIn.create first = .error e' ∧
      outcome = .failed (.connect (.factory first.label e')) ∧ after = s := by
  cases h with
  | notLoaded hc' => cases hc'.symm.trans hc
  | notDerived hc' he =>
    cases hc'.symm.trans hc
    cases he.symm.trans ht
  | printed _ _ hgather => exact absurd hgather hgoal
  | notConnected hc' _ _ has hbefore hfirst =>
    cases hc'.symm.trans hc
    exact ⟨_, _, _, _, has, hbefore, hfirst, rfl, rfl⟩
  | passed hc' _ _ hdrivers =>
    cases hc'.symm.trans hc
    obtain ⟨d, hd, -⟩ := (Registry.get?_connectAll hdrivers (Cluster.nodup_of_ofFile hc)).1 a ha
    cases hd.symm.trans he

/-- The machine changes in a pass only. -/
theorem of_changed (h : Carried net goal path s outcome after) (hchanged : after.machine ≠ s.machine) :
    ∃ c t drivers, Cluster.ofFile s.machine.files path = .ok c ∧ c.topology = .ok t ∧ goal ≠ .gather ∧
      (∀ i ∈ c.accessInfo, ∃ d, Registry.builtIn.create i = .ok d ∧ drivers.get? i.label = some d) ∧
      (outcome, after) = pass net goal t drivers s := by
  cases h with
  | notLoaded _ | notDerived _ _ | printed _ _ _ | notConnected _ _ _ _ _ _ => exact absurd rfl hchanged
  | passed hc ht hgoal hdrivers =>
    exact ⟨_, _, _, hc, ht, hgoal, (Registry.get?_connectAll hdrivers (Cluster.nodup_of_ofFile hc)).1, rfl⟩

end Carried

/-- With arguments that are accepted, the program carries out its goal. -/
theorem run_eq_carryOut {arguments : List String} {environment : Option String} {a : Arguments} {path : String}
    (hread : Arguments.read arguments = .ok a) (hpath : configPath a environment = .ok path) (s : Session ν) :
    run net arguments environment s = carryOut net a.goal path s := by
  simp [run, hread, hpath, Except.bind, Except.map]

/-! ## Deliveries -/

/-- A plan that fails delivers nothing. Where the definition does not load, its topology cannot be derived, or the
driver of some switch cannot be made, the program ends with code 1 and leaves everything as it was: no login was made,
and no file has changed. A topology that is printed changes nothing on the machine either, whether there could be drivers or
not, and the code is 0. And where the machine did change, the whole topology had been derived and every switch had its
driver, and what happened to the machine happened in a pass that started on it as it was found. -/
theorem delivered_after_planning {arguments : List String} {environment : Option String} {a : Arguments}
    {path : String} (hread : Arguments.read arguments = .ok a) (hpath : configPath a environment = .ok path)
    (s : Session ν) :
    let files := s.machine.files
    let outcome := (run net arguments environment s).1
    let after := (run net arguments environment s).2
    (∀ e, Cluster.ofFile files path = .error e →
      outcome = .failed (.load path e) ∧ outcome.code = 1 ∧ after = s) ∧
    (∀ c, Cluster.ofFile files path = .ok c →
      (∀ e, c.topology = .error e → outcome = .failed (.aggregate e) ∧ outcome.code = 1 ∧ after = s) ∧
      ∀ t, c.topology = .ok t →
        (a.goal = .gather →
          outcome = .done ∧ outcome.code = 0 ∧ after = { s with printed := t.toValue.print ++ "\n" }) ∧
        (a.goal ≠ .gather → ∀ i ∈ c.accessInfo, ∀ e, Registry.builtIn.create i = .error e →
          ∃ before first later e', c.accessInfo = before ++ first :: later ∧
            (∀ b ∈ before, ∃ d, Registry.builtIn.create b = .ok d) ∧ Registry.builtIn.create first = .error e' ∧
            outcome = .failed (.connect (.factory first.label e')) ∧ outcome.code = 1 ∧ after = s)) ∧
    (after.machine ≠ s.machine →
      ∃ c t drivers, Cluster.ofFile files path = .ok c ∧ c.topology = .ok t ∧ a.goal ≠ .gather ∧
        (∀ i ∈ c.accessInfo, ∃ d, Registry.builtIn.create i = .ok d ∧ drivers.get? i.label = some d) ∧
        (outcome, after) = pass net a.goal t drivers s) := by
  intro files outcome after
  have h : Carried net a.goal path s outcome after := by
    have hcarried := carried_carryOut net a.goal path s
    rwa [← run_eq_carryOut net hread hpath s] at hcarried
  refine ⟨fun e he => ?_, fun c hc => ⟨fun e he => ?_, fun t ht => ⟨fun hgoal => ?_, fun hgoal i hi e he => ?_⟩⟩,
    h.of_changed⟩
  · obtain ⟨houtcome, hafter⟩ := h.of_notLoaded he
    exact ⟨houtcome, by rw [houtcome]; rfl, hafter⟩
  · obtain ⟨houtcome, hafter⟩ := h.of_notDerived hc he
    exact ⟨houtcome, by rw [houtcome]; rfl, hafter⟩
  · obtain ⟨houtcome, hafter⟩ := h.of_gather hc ht hgoal
    exact ⟨houtcome, by rw [houtcome]; rfl, hafter⟩
  · obtain ⟨before, first, later, e', has, hbefore, hfirst, houtcome, hafter⟩ := h.of_notConnected hc ht hgoal hi he
    exact ⟨before, first, later, e', has, hbefore, hfirst, houtcome, by rw [houtcome]; rfl, hafter⟩

/-- A definition of two switches, of which the second is to be logged in to without a user. -/
def loginWithoutUser : String :=
  "switches:
  data:
  - label: data_1
    class: mellanox
    hostname: sw1
    mode: passive
  - label: data_2
    class: mellanox
    hostname: sw2"

/-- What the definition says. -/
def withoutUser : Cluster :=
  let record (label host : String) (mode : DriverMode) : SwitchRecord :=
    ⟨label, "mellanox", host, none, none, mode, none, none, false, []⟩
  { Cluster.empty with switches := [record "data_1" "sw1" .passive, record "data_2" "sw2" .active] }

/-- The first of two switches could be configured, but the second has no driver: nothing is done, unless the topology is
only printed. -/
theorem delivered_after_planning_loginWithoutUser :
    let files := Files.empty.create "config.yml" (Text.encode loginWithoutUser)
    let s : Session Unit := ⟨⟨files, (), []⟩, ⟨[], ""⟩, ""⟩
    (run Network.down [] none s).1.code = 1 ∧ (run Network.down [] none s).2 = s ∧
      (run Network.down ["gather"] none s).1.code = 0 ∧ (run Network.down ["gather"] none s).2.machine = s.machine := by
  intro files s
  have hc : Cluster.ofFile files "config.yml" = .ok withoutUser := by decide +kernel
  have ht : withoutUser.topology = .ok .empty := rfl
  have hi : (⟨"data_2", "mellanox", "sw2", none, none, .active, none⟩ : AccessInfo) ∈ withoutUser.accessInfo := by decide
  have hcreate : Registry.builtIn.create ⟨"data_2", "mellanox", "sw2", none, none, .active, none⟩ =
    .error (.missingCredentials "sw2") := by decide +kernel
  have hread : Arguments.read [] = .ok ⟨none, []⟩ := rfl
  have hpath : configPath ⟨none, []⟩ none = .ok "config.yml" := rfl
  have hread' : Arguments.read ["gather"] = .ok ⟨none, [.gather]⟩ := by decide
  have hpath' : configPath ⟨none, [.gather]⟩ none = .ok "config.yml" := rfl
  obtain ⟨-, hplanned, -⟩ := delivered_after_planning Network.down hread hpath s
  obtain ⟨-, hgathered, -⟩ := delivered_after_planning Network.down hread' hpath' s
  obtain ⟨_, _, _, _, -, -, -, -, hcode, hafter⟩ := ((hplanned _ hc).2 _ ht).2 (by decide) _ hi _ hcreate
  obtain ⟨-, hcode', hafter'⟩ := ((hgathered _ hc).2 _ ht).1 (by decide)
  exact ⟨hcode, hafter, hcode', by rw [hafter']⟩

end Program

end SwitchFabric
