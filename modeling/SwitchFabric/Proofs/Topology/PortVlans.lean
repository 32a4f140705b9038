import SwitchFabric.Cluster.Builder
import SwitchFabric.Proofs.Topology.Wiring
import SwitchFabric.Proofs.Vlan

/-!
# The VLANs of ports, as a definition has them

A VLAN interface puts a VLAN on a raw device: the VLAN stands behind the last dot of its device name, and the raw device
is named or stands before the dot (`Interface.PutsVlan`). So it has a VLAN if its device name has the form that this
takes, and is refused otherwise (`vlanDevice_eq_ok_iff`, `vlanDevice_eq_error_iff`).

The VLANs of the ports can be derived unless a template lists an interface that is refused, and are then what the
templates wire, no more and no less (`port_vlans_exact`).
-/

namespace SwitchFabric

/-! ## VLAN interfaces -/

namespace Interface

variable {i : Interface}

/-- The interface is meant for a VLAN, in one schema or the other. -/
def IsVlan (i : Interface) : Prop := i.vlanRawDevice ≠ none ∨ i.vlan ≠ none

/-- The device name is the name of a device, a dot, and the text of a VLAN. -/
def NamesVlan (i : Interface) (before : String) (v : VlanId) : Prop :=
  ∃ suffix, i.deviceName = some (before ++ String.ofList ('.' :: suffix)) ∧ '.' ∉ suffix ∧ VlanId.parse suffix = .ok v

/-- The interface puts a VLAN on a raw device: the one that it names, or else the one that its device name has. -/
def PutsVlan (i : Interface) (v : VlanId) (raw : String) : Prop :=
  i.IsVlan ∧ ∃ before, i.NamesVlan before v ∧ raw = i.vlanRawDevice.getD before

/-- The interface is meant for a VLAN, but its device name has none. -/
def Unusable (i : Interface) : Prop := i.IsVlan ∧ ∀ before v, ¬ i.NamesVlan before v

theorem not_isVlan_iff : (i.vlanRawDevice.isNone && i.vlan.isNone) = true ↔ ¬ i.IsVlan := by
  simp [IsVlan]

theorem namesVlan_iff {before : String} {v : VlanId} :
    i.NamesVlan before v ↔ VlanId.splitDevice (i.deviceName.getD "") = some (before, .ok v) := by
  rw [VlanId.splitDevice_eq_some_iff, NamesVlan]
  cases i.deviceName with
  | none =>
    constructor
    · rintro ⟨suffix, h, -⟩
      cases h
    · rintro ⟨suffix, h, -⟩
      have hchars := congrArg String.toList h
      simp at hchars
  | some name => simp only [Option.some.injEq, Option.getD_some]

theorem vlanDevice_eq_ok_iff {d : VlanDevice} : i.vlanDevice = .ok (some d) ↔ i.PutsVlan d.vlan d.rawDevice := by
  unfold vlanDevice
  split
  · next h => simp [PutsVlan, not_isVlan_iff.1 h]
  · next h =>
    have hvlan : i.IsVlan := Classical.not_not.1 (mt not_isVlan_iff.2 h)
    simp only [PutsVlan, hvlan, true_and, namesVlan_iff]
    split
    · next raw v hcut =>
      rw [hcut]
      constructor
      · intro h
        cases h
        exact ⟨raw, rfl, rfl⟩
      · rintro ⟨before, heq, hraw⟩
        cases heq
        rw [← hraw]
    · next hcut =>
      refine ⟨nofun, ?_⟩
      rintro ⟨before, heq, -⟩
      exact absurd heq (hcut before d.vlan)

theorem vlanDevice_eq_error_iff {e : ConfigError} :
    i.vlanDevice = .error e ↔ i.Unusable ∧ e = .invalidVlanInterface i.label (i.deviceName.getD "") := by
  unfold vlanDevice
  split
  · next h => simp [Unusable, not_isVlan_iff.1 h]
  · next h =>
    have hvlan : i.IsVlan := Classical.not_not.1 (mt not_isVlan_iff.2 h)
    simp only [Unusable, hvlan, true_and, namesVlan_iff]
    split
    · next raw v hcut =>
      refine ⟨nofun, ?_⟩
      rintro ⟨hnone, -⟩
      exact absurd hcut (hnone raw v)
    · next hcut =>
      rw [Except.error.injEq, eq_comm]
      exact (and_iff_right hcut).symm

end Interface

namespace Cluster

variable {c : Cluster}

/-! ## Refused definitions -/

/-- A template lists an interface that is meant for a VLAN and has none. -/
def ListsUnusable (c : Cluster) : Prop :=
  ∃ t ∈ c.templates, ∃ label ∈ t.interfaces, ∃ i, c.interface? label = some i ∧ i.Unusable

theorem addVlan_eq_error_iff {t : NodeTemplate} {found : VlanPorts} {label : String} {e : ConfigError} :
    c.addVlan t found label = .error e ↔ ∃ i, c.interface? label = some i ∧ i.vlanDevice = .error e := by
  unfold addVlan
  cases c.interface? label with
  | none => simp [pure, Except.pure]
  | some i =>
    refine bind_eq_error.trans ⟨?_, ?_⟩
    · rintro (h | ⟨d, -, h⟩)
      · exact ⟨i, rfl, h⟩
      · cases d <;> cases h
    · rintro ⟨i', hi', h⟩
      cases hi'
      exact .inl h

theorem vlanPorts_fails_iff : (∃ e, c.vlanPorts = .error e) ↔ c.ListsUnusable := by
  have hlabel (t : NodeTemplate) (found : VlanPorts) (label : String) :
      (∃ e, c.addVlan t found label = .error e) ↔ ∃ i, c.interface? label = some i ∧ i.Unusable := by
    simp only [addVlan_eq_error_iff, Interface.vlanDevice_eq_error_iff]
    constructor
    · rintro ⟨e, i, hi, hunusable, -⟩
      exact ⟨i, hi, hunusable⟩
    · rintro ⟨i, hi, hunusable⟩
      exact ⟨_, i, hi, hunusable, rfl⟩
  have htemplate (t : NodeTemplate) (found : VlanPorts) : (∃ e, t.interfaces.foldlM (c.addVlan t) found = .error e) ↔
      ∃ label ∈ t.interfaces, ∃ i, c.interface? label = some i ∧ i.Unusable :=
    exists_foldlM_error_iff (fun found label _ => hlabel t found label) found
  exact exists_foldlM_error_iff (fun found t _ => htemplate t found) SortedMap.empty

theorem portVlans_eq_error_iff {e : ConfigError} : c.portVlans = .error e ↔ c.vlanPorts = .error e := by
  refine bind_eq_error.trans (or_iff_left ?_)
  rintro ⟨found, -, h⟩
  cases h

/-- The VLANs of ports are refused for the sake of an interface that a template lists. -/
theorem exists_of_portVlans_error {e : ConfigError} (h : c.portVlans = .error e) :
    ∃ t ∈ c.templates, ∃ i, i.label ∈ t.interfaces ∧ c.interface? i.label = some i ∧ i.vlanDevice = .error e := by
  obtain ⟨t, ht, found, h⟩ := exists_of_foldlM_error (portVlans_eq_error_iff.1 h)
  obtain ⟨label, hlabel, found, h⟩ := exists_of_foldlM_error h
  obtain ⟨i, hi, hd⟩ := addVlan_eq_error_iff.1 h
  obtain rfl := label_of_interface? hi
  exact ⟨t, ht, i, hlabel, hi, hd⟩

/-! ## What is wired -/

/-- A VLAN is carried by the ports of the interfaces that are listed for it, and of the slaves of their raw devices. -/
theorem carries_iff {switch : String} {port : Nat} {v : VlanId} :
    c.Carries switch port v ↔
      ∃ t ∈ c.templates, ∃ label ∈ t.interfaces, ∃ i raw, c.interface? label = some i ∧ i.PutsVlan v raw ∧
        ∃ b ∈ t.bindings, b.switch = switch ∧ port ∈ b.ports ∧
          (b.interface = label ∨ ∃ j ∈ c.interfaces, j.masterDevice = some raw ∧ j.label = b.interface) := by
  have hmember (i : Interface) (d : VlanDevice) (a : String) : a ∈ c.vlanMembers i d ↔
      a = i.label ∨ ∃ j ∈ c.interfaces, j.masterDevice = some d.rawDevice ∧ j.label = a := by
    simp only [vlanMembers, slavesOf, List.mem_cons, List.mem_map, List.mem_filter, beq_iff_eq, and_assoc]
  refine exists_congr fun t => and_congr_right fun _ => ⟨?_, ?_⟩
  · rintro ⟨-, ⟨b, hb, rfl, hs, hport⟩, i, d, ⟨hlisted, hi, hd⟩, rfl, ha⟩
    exact ⟨i.label, hlisted, i, d.rawDevice, hi, Interface.vlanDevice_eq_ok_iff.1 hd, b, hb, hs, hport,
      (hmember i d _).1 ha⟩
  · rintro ⟨label, hlisted, i, raw, hi, hputs, b, hb, hs, hport, ha⟩
    obtain rfl := label_of_interface? hi
    have hd : i.vlanDevice = .ok (some ⟨v, raw⟩) := Interface.vlanDevice_eq_ok_iff.2 hputs
    exact ⟨b.interface, ⟨b, hb, rfl, hs, hport⟩, i, ⟨v, raw⟩, ⟨hlisted, hi, hd⟩, rfl, (hmember i _ _).2 ha⟩

/-- A port is named for the sake of a VLAN. -/
theorem allValues_vlansByPort (byVlan : SortedMap VlanId (List Nat)) :
    SortedMap.AllValues (· ≠ []) (vlansByPort byVlan) := by
  refine List.foldlRecOn _ _ SortedMap.allValues_empty fun m hm e _ => ?_
  refine List.foldlRecOn _ _ hm fun m hm port _ => hm.update ?_
  dsimp only
  split
  · next hcontains =>
    intro hnil
    rw [hnil] at hcontains
    cases hcontains
  · exact List.concat_ne_nil _ _

/-- The VLANs of ports are exactly what the definition says. They cannot be derived if and only if some template lists a
label whose first definition is a VLAN interface without a usable device name; the error names the label and the device of
such an interface. Otherwise a port has a VLAN if and only if a template lists a label that is first defined as a VLAN
interface with this VLAN and some raw device, and wires to the port that interface or a slave of the raw device; and if and
only if the VLAN has the port. The VLANs of a port stand in strictly ascending order, and there is at least one. -/
theorem port_vlans_exact (c : Cluster) :
    ((∃ label device, c.portVlans = .error (.invalidVlanInterface label device)) ↔ c.ListsUnusable) ∧
    (∀ e, c.portVlans = .error e → ∃ t ∈ c.templates, ∃ i, i.label ∈ t.interfaces ∧ c.interface? i.label = some i ∧
      i.Unusable ∧ e = .invalidVlanInterface i.label (i.deviceName.getD "")) ∧
    (¬ c.ListsUnusable → ∃ vlans found, c.portVlans = .ok vlans ∧ c.vlanPorts = .ok found ∧
      (∀ switch port v, v ∈ heldAt vlans switch port ↔
        ∃ t ∈ c.templates, ∃ label ∈ t.interfaces, ∃ i raw, c.interface? label = some i ∧ i.PutsVlan v raw ∧
          ∃ b ∈ t.bindings, b.switch = switch ∧ port ∈ b.ports ∧
            (b.interface = label ∨ ∃ j ∈ c.interfaces, j.masterDevice = some raw ∧ j.label = b.interface)) ∧
      (∀ switch port v, v ∈ heldAt vlans switch port ↔ port ∈ heldAt found switch v) ∧
      ∀ switch ports port list, vlans.get? switch = some ports → ports.get? port = some list →
        list.Pairwise (fun v w => v.number < w.number) ∧ list.Nodup ∧ list ≠ []) := by
  have hnamed {e : ConfigError} (h : c.portVlans = .error e) : ∃ t ∈ c.templates, ∃ i, i.label ∈ t.interfaces ∧
      c.interface? i.label = some i ∧ i.Unusable ∧ e = .invalidVlanInterface i.label (i.deviceName.getD "") := by
    obtain ⟨t, ht, i, hlisted, hi, h⟩ := exists_of_portVlans_error h
    exact ⟨t, ht, i, hlisted, hi, Interface.vlanDevice_eq_error_iff.1 h⟩
  refine ⟨⟨?_, fun h => ?_⟩, fun e => hnamed, fun h => ?_⟩
  · rintro ⟨label, device, h⟩
    exact vlanPorts_fails_iff.1 ⟨_, portVlans_eq_error_iff.1 h⟩
  · obtain ⟨e, he⟩ := vlanPorts_fails_iff.2 h
    have herror := portVlans_eq_error_iff.2 he
    obtain ⟨-, -, i, -, -, -, rfl⟩ := hnamed herror
    exact ⟨_, _, herror⟩
  · cases hvlans : c.portVlans with
    | error e => exact absurd (vlanPorts_fails_iff.1 ⟨e, portVlans_eq_error_iff.1 hvlans⟩) h
    | ok vlans =>
      obtain ⟨found, hfound, hturned⟩ := exists_vlanPorts hvlans
      refine ⟨vlans, found, rfl, hfound, fun switch port v => ?_, fun switch port v => ?_, ?_⟩
      · rw [mem_heldAt_portVlans (hturned switch), mem_heldAt_vlanPorts hfound, carries_iff]
      · exact mem_heldAt_portVlans (hturned switch)
      · intro switch ports port list hports hlist
        have hheld : heldAt vlans switch port = list := by rw [heldAt, hports, Option.bind_some, hlist, Option.getD_some]
        have hascending : list.Pairwise fun v w => v.number < w.number :=
          hheld ▸ pairwise_heldAt_portVlans (hturned switch)
        refine ⟨hascending, hascending.imp fun {v w} hlt heq => ?_, ?_⟩
        · exact absurd hlt (by rw [heq]; exact Nat.lt_irrefl _)
        · rw [hturned] at hports
          obtain ⟨byVlan, -, rfl⟩ := Option.map_eq_some_iff.1 hports
          exact allValues_vlansByPort byVlan port list hlist

/-- A bond with slaves of both schemas and a VLAN interface of each, the second with the given device name. Ports are
shared, and one of the VLAN interfaces is listed twice. -/
def mixedSchemas (device : String) : Cluster :=
  bare.withSwitch "data_1"
    |>.withInterface (.bond "bond0")
    |>.withInterface (.bondSlave "eth10" "bond0")
    |>.withInterface { Interface.named "eth11" with device := some "eth11", master := some "bond0" }
    |>.withInterface (.ofVlan "bond0" 30)
    |>.withInterface { Interface.named "storage" with device := some device, vlan := some (.bool true) }
    |>.withTemplate "compute" [⟨"data_1", "eth10", [5]⟩, ⟨"data_1", "eth11", [5, 6]⟩, ⟨"data_1", "storage", [7]⟩]
    |>.withTemplateInterface "compute" "bond0.30"
    |>.withTemplateInterface "compute" "bond0.30"

theorem port_vlans_exact_mixedSchemas :
    let c := mixedSchemas "bond0.Vlan20"
    let v : VlanId := ⟨20, by decide, by decide⟩
    ¬ c.ListsUnusable ∧ (∃ vlans, c.portVlans = .ok vlans ∧ v ∈ heldAt vlans "data_1" 5 ∧
      ((heldAt vlans "data_1" 6).map (·.number)) = [20, 30] ∧ ((heldAt vlans "data_1" 7).map (·.number)) = [20]) ∧
    (mixedSchemas "bond0.4095").portVlans = .error (.invalidVlanInterface "storage" "bond0.4095") ∧
      (mixedSchemas "bond0.4095").ListsUnusable := by
  intro c v
  have hok : c.vlanPorts = .ok (c.vlanPorts.toOption.getD .empty) := rfl
  have hnot : ¬ c.ListsUnusable := fun h => by
    obtain ⟨e, he⟩ := vlanPorts_fails_iff.2 h
    rw [hok] at he
    cases he
  obtain ⟨-, -, hexact⟩ := port_vlans_exact c
  obtain ⟨vlans, found, hvlans, hfound, hwired, -, -⟩ := hexact hnot
  have hcomputed : c.portVlans = .ok (c.portVlans.toOption.getD .empty) := rfl
  obtain rfl := Except.ok.inj (hvlans.symm.trans hcomputed)
  have herror : (mixedSchemas "bond0.4095").portVlans = .error (.invalidVlanInterface "storage" "bond0.4095") := rfl
  refine ⟨hnot, ⟨_, hvlans, ?_, by decide +kernel, by decide +kernel⟩, herror, ?_⟩
  · -- the first slave of the bond, for the VLAN interface of the other schema
    refine (hwired _ _ _).2 ⟨_, List.mem_singleton_self _, "storage", by decide +kernel, _, "bond0", rfl, ?_, _,
      List.mem_cons_self, rfl, List.mem_cons_self, .inr ⟨_, List.mem_cons_of_mem _ List.mem_cons_self, rfl, rfl⟩⟩
    exact ⟨.inr nofun, "bond0", ⟨"Vlan20".toList, rfl, by decide, rfl⟩, rfl⟩
  · exact (port_vlans_exact _).1.1 ⟨_, _, herror⟩

end Cluster

end SwitchFabric
