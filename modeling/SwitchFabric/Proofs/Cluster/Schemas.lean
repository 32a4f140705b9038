import Mathlib.Data.List.Forall2
import SwitchFabric.Cluster.Builder
import SwitchFabric.Cluster.Check

/-!
# Two schemas for interfaces

The checks and the views look at an interface through a few questions only: its label and device name, whether it is a
bond, whose slave it is, its MTU, and its VLAN (`Interface.Seen`). So interfaces that answer these questions alike can take
each other's place (`check_congr`, `topology_congr`).

An interface written with the keys of one schema answers them as the same interface does in the other
(`Interface.seen_toRhel`), provided that a raw device is named as the device name has it: one schema names the raw device
of a VLAN, the other takes it from the device name. So a definition means the same in both (`schemas_mean_the_same`).
-/

namespace SwitchFabric

namespace Interface

/-- What the checks and the views see of an interface. -/
structure Seen where
  label : String
  deviceName : Option String
  isBond : Bool
  masterDevice : Option String
  mtu : Option Mtu
  vlanDevice : Except ConfigError (Option VlanDevice)

/-- The answers of an interface. -/
def seen (i : Interface) : Seen :=
  ⟨i.label, i.deviceName, i.isBond, i.masterDevice, i.mtu, i.vlanDevice⟩

end Interface

namespace Cluster

/-! ## Interfaces seen alike -/

/-- What is seen of all interfaces. -/
def seen (c : Cluster) : List Interface.Seen := c.interfaces.map Interface.seen

variable {c : Cluster} {is : List Interface}

theorem map_seen_interface? (c : Cluster) (label : String) :
    (c.interface? label).map Interface.seen = c.seen.find? (·.label == label) := by
  rw [interface?, seen, List.find?_map]
  rfl

theorem slavesOf_eq (c : Cluster) (device : String) :
    c.slavesOf device = (c.seen.filter (·.masterDevice == some device)).map (·.label) := by
  rw [slavesOf, seen, List.filter_map, List.map_map]
  rfl

theorem bondSlaves_eq (c : Cluster) :
    c.bondSlaves = c.seen.foldl (fun bonds i =>
      match i.isBond, i.deviceName with
      | true, some device =>
        let slaves := c.slavesOf device
        if slaves.isEmpty then bonds else bonds.insert i.label slaves
      | _, _ => bonds) .empty := by
  rw [bondSlaves, seen, List.foldl_map]
  rfl

theorem addVlan_eq (c : Cluster) (t : NodeTemplate) (found : VlanPorts) (label : String) :
    c.addVlan t found label =
      match (c.interface? label).map Interface.seen with
      | none => .ok found
      | some i =>
        i.vlanDevice.map fun
          | none => found
          | some d =>
            (t.bindings.filter fun b => (i.label :: c.slavesOf d.rawDevice).contains b.interface).foldl
              (fun found b => extended₂ b.switch d.vlan b.ports found) found := by
  rw [addVlan]
  cases c.interface? label with
  | none => rfl
  | some i =>
    have hseen : i.seen.vlanDevice = i.vlanDevice := rfl
    rw [Option.map_some]
    dsimp only
    rw [hseen]
    rcases i.vlanDevice with _ | _ | d <;> rfl

section Congr

variable (h : c.seen = is.map Interface.seen)

include h

theorem map_seen_interface?_congr (label : String) :
    (({ c with interfaces := is } : Cluster).interface? label).map Interface.seen =
      (c.interface? label).map Interface.seen := by
  rw [map_seen_interface?, map_seen_interface?, h]
  rfl

theorem slavesOf_congr (device : String) : ({ c with interfaces := is } : Cluster).slavesOf device = c.slavesOf device := by
  rw [slavesOf_eq, slavesOf_eq, h]
  rfl

theorem bondSlaves_congr : ({ c with interfaces := is } : Cluster).bondSlaves = c.bondSlaves := by
  rw [bondSlaves_eq, bondSlaves_eq, h]
  simp only [slavesOf_congr h]
  rfl

theorem checkBinding_congr (template : String) (b : Binding) :
    ({ c with interfaces := is } : Cluster).checkBinding template b = c.checkBinding template b := by
  have hfound := congrArg Option.isNone (map_seen_interface?_congr h b.interface)
  rw [Option.isNone_map, Option.isNone_map] at hfound
  rw [checkBinding, checkBinding, hfound]
  rfl

theorem check_congr : ({ c with interfaces := is } : Cluster).check = c.check := by
  have hbinding : ({ c with interfaces := is } : Cluster).checkBinding = c.checkBinding :=
    funext₂ (checkBinding_congr h)
  unfold check
  rw [hbinding]
  rfl

theorem addVlan_congr (t : NodeTemplate) (found : VlanPorts) (label : String) :
    ({ c with interfaces := is } : Cluster).addVlan t found label = c.addVlan t found label := by
  rw [addVlan_eq, addVlan_eq, map_seen_interface?_congr h]
  simp only [slavesOf_congr h]

theorem portVlans_congr : ({ c with interfaces := is } : Cluster).portVlans = c.portVlans := by
  have hfound : ({ c with interfaces := is } : Cluster).vlanPorts = c.vlanPorts := by
    rw [vlanPorts, vlanPorts]
    simp only [funext₂ (addVlan_congr h _)]
  rw [portVlans, portVlans, hfound]

theorem mtuPorts_congr : ({ c with interfaces := is } : Cluster).mtuPorts = c.mtuPorts := by
  have hmtu (label : String) : (({ c with interfaces := is } : Cluster).interface? label).bind Interface.mtu =
      (c.interface? label).bind Interface.mtu := by
    have hseen := congrArg (Option.bind · Interface.Seen.mtu) (map_seen_interface?_congr h label)
    rw [Option.bind_map, Option.bind_map] at hseen
    exact hseen
  rw [mtuPorts, mtuPorts]
  simp only [hmtu]

theorem channelGroups_congr : ({ c with interfaces := is } : Cluster).channelGroups = c.channelGroups := by
  rw [channelGroups, channelGroups, bondSlaves_congr h]
  rfl

theorem topology_congr : ({ c with interfaces := is } : Cluster).topology = c.topology := by
  rw [topology, topology, portVlans_congr h, channelGroups_congr h, mtuPorts_congr h]
  rfl

end Congr

end Cluster

/-! ## The schemas -/

namespace Interface

/-- Only keys of the Debian schema are used. -/
@[mk_iff] structure IsDebian (i : Interface) : Prop where
  device : i.device = none
  bondingMaster : i.bondingMaster = none
  master : i.master = none
  vlan : i.vlan = none
  deviceMtu : i.deviceMtu = none

instance (i : Interface) : Decidable i.IsDebian := decidable_of_iff _ (isDebian_iff i).symm

/-- A raw device is named as it stands before the last dot of the device name, if there is a dot. -/
def NamesRawDevice (i : Interface) : Prop :=
  ∀ raw ∈ i.vlanRawDevice, ∀ device ∈ i.deviceName, ∀ cut ∈ Text.splitLast '.' device.toList,
    raw = String.ofList cut.1

instance (i : Interface) : Decidable i.NamesRawDevice :=
  inferInstanceAs (Decidable (∀ raw ∈ i.vlanRawDevice, ∀ device ∈ i.deviceName,
    ∀ cut ∈ Text.splitLast '.' device.toList, raw = String.ofList cut.1))

/-- The interface with the keys of the RHEL schema. What marks a bond and a VLAN there is a value that is not looked
at. -/
def toRhel (bond vlan : Yaml.Value) (i : Interface) : Interface :=
  { named i.label with
    device := i.iface
    bondingMaster := i.bondMode.map fun _ => bond
    master := i.bondMaster
    vlan := i.vlanRawDevice.map fun _ => vlan
    deviceMtu := i.mtuValue }

theorem deviceName_toRhel {i : Interface} (h : i.IsDebian) (bond vlan : Yaml.Value) :
    (i.toRhel bond vlan).deviceName = i.deviceName := by
  rw [deviceName, deviceName, h.device, Option.or_none]
  rfl

/-- The raw device that one schema names is the one that the other reads off the device name. -/
theorem NamesRawDevice.eq_of_splitDevice {i : Interface} (h : i.NamesRawDevice) {raw : String}
    (hraw : i.vlanRawDevice = some raw) {before : String} {v : Except ValueError VlanId}
    (hsplit : VlanId.splitDevice (i.deviceName.getD "") = some (before, v)) : raw = before := by
  obtain ⟨⟨cs, vlan⟩, hcut, heq⟩ := Option.map_eq_some_iff.1 hsplit
  cases heq
  cases hdevice : i.deviceName with
  | none =>
    rw [hdevice] at hcut
    cases hcut
  | some device =>
    rw [hdevice, Option.getD_some] at hcut
    exact h raw hraw device hdevice (cs, vlan) hcut

theorem vlanDevice_toRhel {i : Interface} (h : i.IsDebian) (hraw : i.NamesRawDevice) (bond vlan : Yaml.Value) :
    (i.toRhel bond vlan).vlanDevice = i.vlanDevice := by
  have hvlan : (i.toRhel bond vlan).vlan = i.vlanRawDevice.map fun _ => vlan := rfl
  have hnone : (i.toRhel bond vlan).vlanRawDevice = none := rfl
  have hlabel : (i.toRhel bond vlan).label = i.label := rfl
  rw [vlanDevice, vlanDevice, hvlan, hnone, hlabel, h.vlan, deviceName_toRhel h]
  cases hr : i.vlanRawDevice with
  | none => rfl
  | some raw =>
    simp only [Option.map_some, Option.isNone_none, Option.isNone_some, Bool.and_false, Bool.false_and,
      if_neg Bool.false_ne_true]
    rcases hsplit : VlanId.splitDevice (i.deviceName.getD "") with _ | ⟨before, _ | v⟩
    · rfl
    · rfl
    · rw [hraw.eq_of_splitDevice hr hsplit]
      rfl

/-- The checks and the views see the same interface in both schemas. -/
theorem seen_toRhel {i : Interface} (h : i.IsDebian) (hraw : i.NamesRawDevice) (bond vlan : Yaml.Value) :
    (i.toRhel bond vlan).seen = i.seen := by
  have hbond : (i.toRhel bond vlan).isBond = i.isBond := by
    rw [isBond, isBond, h.bondingMaster]
    simp [toRhel, named]
  have hmaster : (i.toRhel bond vlan).masterDevice = i.masterDevice := by
    rw [masterDevice, masterDevice, h.master, Option.or_none]
    rfl
  have hmtu : (i.toRhel bond vlan).mtu = i.mtu := by
    rw [mtu, mtu, h.deviceMtu, Option.or_none]
    rfl
  rw [seen, seen, deviceName_toRhel h, hbond, hmaster, hmtu, vlanDevice_toRhel h hraw]
  rfl

end Interface

namespace Cluster

/-- A definition means the same in both schemas. Let all its interfaces be written with keys of the Debian schema, and let
each raw device be named as the device name has it. Rewrite each interface with the keys of the RHEL schema, with any values
as marks of a bond and of a VLAN. Then the checks come to the same result, and the topology is the same or fails to be
derived for the same reason. -/
theorem schemas_mean_the_same {c : Cluster} (hdebian : ∀ i ∈ c.interfaces, i.IsDebian)
    (hraw : ∀ i ∈ c.interfaces, i.NamesRawDevice) {is : List Interface}
    (his : List.Forall₂ (fun i j => ∃ bond vlan, bond ≠ .null ∧ vlan ≠ .null ∧ j = i.toRhel bond vlan) c.interfaces is) :
    let rewritten : Cluster := { c with interfaces := is }
    rewritten.check = c.check ∧ rewritten.topology = c.topology := by
  have hseen : c.seen = is.map Interface.seen := by
    rw [seen]
    generalize c.interfaces = interfaces at hdebian hraw his
    induction his with
    | nil => rfl
    | @cons i j interfaces is hij _ ih =>
      obtain ⟨bond, vlan, -, -, rfl⟩ := hij
      obtain ⟨hi, hdebian⟩ := List.forall_mem_cons.1 hdebian
      obtain ⟨hname, hraw⟩ := List.forall_mem_cons.1 hraw
      rw [List.map_cons, List.map_cons, Interface.seen_toRhel hi hname, ih hdebian hraw]
  exact ⟨check_congr hseen, topology_congr hseen⟩

/-- The pair of the scenario, with its bond, the slaves and the VLAN of the bond in the RHEL schema. -/
theorem schemas_mean_the_same_mlagPair :
    let c := Scenario.mlagPair.cluster
    let is := c.interfaces.map (Interface.toRhel (.string "yes") (.bool true))
    let rewritten : Cluster := { c with interfaces := is }
    is.map (·.iface) = [none, none, none, none] ∧ is.map (·.device) = c.interfaces.map (·.iface) ∧
      rewritten.check = .ok () ∧ rewritten.topology = .ok Scenario.mlagPair.topology := by
  intro c is rewritten
  have hdebian : ∀ i ∈ c.interfaces, i.IsDebian := by decide
  have hraw : ∀ i ∈ c.interfaces, i.NamesRawDevice := by decide
  have his : List.Forall₂ (fun i j => ∃ bond vlan, bond ≠ .null ∧ vlan ≠ .null ∧ j = i.toRhel bond vlan)
      c.interfaces is :=
    List.forall₂_map_right_iff.2 (List.forall₂_same.2 fun i _ =>
      ⟨.string "yes", .bool true, nofun, nofun, rfl⟩)
  obtain ⟨hcheck, htopology⟩ := schemas_mean_the_same hdebian hraw his
  exact ⟨by decide, by decide, hcheck.trans rfl, htopology.trans (Scenario.topology_cluster .mlagPair)⟩

end Cluster

end SwitchFabric
