import Mathlib.Data.List.Sort
import SwitchFabric.Proofs.Topology.Members

/-!
# What its wiring brings to a port

A template wires interfaces to ports (`NodeTemplate.Wires`), and brings to an interface the VLANs of the VLAN
interfaces that it lists (`Cluster.Brings`). The views of a topology hold exactly that: a port carries the VLANs that
are brought to the interfaces wired to it (`mem_vlansOf`), in ascending order (`pairwise_vlansOf`), and is listed under
the MTUs of these interfaces (`mem_heldAt_mtuPorts`), the smallest of which is its own (`mtuOf_eq_some_iff`).
-/

namespace SwitchFabric

/-- What a map of maps of lists holds at two keys. -/
def heldAt {ι κ α : Type} [OrderedKey ι] [DecidableEq ι] [OrderedKey κ] [DecidableEq κ]
    (m : SortedMap ι (SortedMap κ (List α))) (j : ι) (k : κ) : List α :=
  ((m.get? j).bind (·.get? k)).getD []

/-- The template wires an interface to a port of a switch. -/
def NodeTemplate.Wires (t : NodeTemplate) (interface switch : String) (port : Nat) : Prop :=
  ∃ b ∈ t.bindings, b.interface = interface ∧ b.switch = switch ∧ port ∈ b.ports

namespace Cluster

section Held

variable {ι κ α : Type} [OrderedKey ι] [DecidableEq ι] [OrderedKey κ] [DecidableEq κ]

@[simp] theorem heldAt_empty (j : ι) (k : κ) :
    heldAt (.empty : SortedMap ι (SortedMap κ (List α))) j k = [] := rfl

theorem heldAt_extended₂ (j j' : ι) (k k' : κ) (items : List α) (m : SortedMap ι (SortedMap κ (List α))) :
    heldAt (extended₂ j k items m) j' k' = heldAt m j' k' ++ if j = j' ∧ k = k' then items else [] := by
  rw [heldAt, get?_extended₂]
  by_cases hj : j' = j
  · subst hj
    rw [if_pos rfl, Option.bind_some, extended, SortedMap.get?_update, heldAt]
    by_cases hk : k' = k
    · subst hk
      rw [if_pos rfl, if_pos ⟨rfl, rfl⟩, Option.getD_some]
      cases m.get? j' <;> rfl
    · rw [if_neg hk, if_neg fun h => hk h.2.symm, List.append_nil]
      cases m.get? j' <;> rfl
  · rw [if_neg hj, if_neg fun h => hj h.1.symm, List.append_nil, heldAt]

end Held

variable {c : Cluster}

/-! ## VLANs -/

/-- The template lists a VLAN interface, which puts a VLAN on a raw device. -/
structure ListsVlan (c : Cluster) (t : NodeTemplate) (i : Interface) (d : VlanDevice) : Prop where
  listed : i.label ∈ t.interfaces
  first : c.interface? i.label = some i
  device : i.vlanDevice = .ok (some d)

/-- The template brings a VLAN to an interface: the interface is listed as a VLAN interface, or it is a slave of the
raw device of one. -/
def Brings (c : Cluster) (t : NodeTemplate) (interface : String) (v : VlanId) : Prop :=
  ∃ i d, c.ListsVlan t i d ∧ d.vlan = v ∧ interface ∈ c.vlanMembers i d

/-- A VLAN is brought to some interface that is wired to the port. -/
def Carries (c : Cluster) (switch : String) (port : Nat) (v : VlanId) : Prop :=
  ∃ t ∈ c.templates, ∃ a, t.Wires a switch port ∧ c.Brings t a v

theorem label_of_interface? {label : String} {i : Interface} (h : c.interface? label = some i) : i.label = label := by
  simpa using List.find?_some h

/-- What an interface that a template lists adds to the ports of a VLAN. -/
theorem mem_heldAt_addVlan {t : NodeTemplate} {label : String} {found found' : VlanPorts}
    (h : c.addVlan t found label = .ok found') (switch : String) (port : Nat) (v : VlanId) :
    port ∈ heldAt found' switch v ↔ port ∈ heldAt found switch v ∨
      ∃ i d, c.interface? label = some i ∧ i.vlanDevice = .ok (some d) ∧ d.vlan = v ∧
        ∃ a ∈ c.vlanMembers i d, t.Wires a switch port := by
  unfold addVlan at h
  cases hi : c.interface? label with
  | none =>
    rw [hi] at h
    cases h
    simp
  | some i =>
    rw [hi] at h
    obtain ⟨d, hd, h⟩ := bind_eq_ok.1 h
    cases d with
    | none =>
      cases h
      simp [hd]
    | some d =>
      cases h
      have hgathers := foldl_gathers (P := fun m => port ∈ heldAt m switch v)
        (Q := fun b => (b.switch = switch ∧ d.vlan = v) ∧ port ∈ b.ports)
        (f := fun found b => extended₂ b.switch d.vlan b.ports found)
        (l := t.bindings.filter fun b => (c.vlanMembers i d).contains b.interface)
        (fun m b _ => by rw [heldAt_extended₂, List.mem_append]; split <;> simp [*]) found
      rw [hgathers]
      refine or_congr_right ⟨?_, ?_⟩
      · rintro ⟨b, hb, ⟨hs, hv⟩, hport⟩
        obtain ⟨hmem, ha⟩ := List.mem_filter.1 hb
        exact ⟨i, d, rfl, hd, hv, b.interface, by simpa using ha, b, hmem, rfl, hs, hport⟩
      · rintro ⟨i', d', hi', hd', hv, a, ha, b, hmem, rfl, hs, hport⟩
        cases hi'
        rw [hd] at hd'
        cases hd'
        exact ⟨b, List.mem_filter.2 ⟨hmem, by simpa using ha⟩, ⟨hs, hv⟩, hport⟩

/-- The ports of a VLAN are those that are wired to an interface that the VLAN is brought to. -/
theorem mem_heldAt_vlanPorts {found : VlanPorts} (h : c.vlanPorts = .ok found) {switch : String} {port : Nat}
    {v : VlanId} : port ∈ heldAt found switch v ↔ c.Carries switch port v := by
  have houter := foldlM_gathers (P := fun m => port ∈ heldAt m switch v)
    (Q := fun t => ∃ label ∈ t.interfaces, ∃ i d, c.interface? label = some i ∧ i.vlanDevice = .ok (some d) ∧
      d.vlan = v ∧ ∃ a ∈ c.vlanMembers i d, t.Wires a switch port) h fun m t m' _ hm' =>
        foldlM_gathers hm' fun m label m' _ hm' => mem_heldAt_addVlan hm' switch port v
  rw [houter, heldAt_empty]
  refine (or_iff_right (List.not_mem_nil)).trans (exists_congr fun t => and_congr_right fun _ => ?_)
  constructor
  · rintro ⟨label, hlisted, i, d, hi, hd, hv, a, ha, hwires⟩
    have hlabel := label_of_interface? hi
    exact ⟨a, hwires, i, d, ⟨hlabel ▸ hlisted, hlabel ▸ hi, hd⟩, hv, ha⟩
  · rintro ⟨a, hwires, i, d, ⟨hlisted, hi, hd⟩, hv, ha⟩
    exact ⟨i.label, hlisted, i, d, hi, hd, hv, a, ha, hwires⟩

/-- Naming a VLAN on ports adds it where it is not named yet. -/
theorem get?_foldl_addOnce (vlan : VlanId) (ports : List Nat) (m : SortedMap Nat (List VlanId)) (port : Nat) :
    ((ports.foldl (addOnce vlan) m).get? port).getD [] =
      if port ∈ ports ∧ vlan ∉ (m.get? port).getD [] then (m.get? port).getD [] ++ [vlan]
      else (m.get? port).getD [] := by
  induction ports generalizing m with
  | nil => simp
  | cons p ports ih =>
    have hone : ((addOnce vlan m p).get? port).getD [] =
        if port = p ∧ vlan ∉ (m.get? port).getD [] then (m.get? port).getD [] ++ [vlan]
        else (m.get? port).getD [] := by
      rw [addOnce, SortedMap.get?_update]
      by_cases hp : port = p
      · subst hp
        by_cases hv : vlan ∈ (m.get? port).getD [] <;> simp [hv]
      · simp [hp]
    rw [List.foldl_cons, ih, hone]
    by_cases hv : vlan ∈ (m.get? port).getD []
    · simp [hv]
    · by_cases hp : port = p
      · subst hp
        simp [hv]
      · simp [hv, hp]

/-- The VLANs of a port are those whose ports it is one of, in the order of the VLANs. -/
theorem get?_vlansByPort (vlans : SortedMap VlanId (List Nat)) (port : Nat) :
    ((vlansByPort vlans).get? port).getD [] = (vlans.entries.filter fun e => e.2.contains port).map Prod.fst := by
  -- with VLANs on the port that are no keys yet
  have h (entries : List (VlanId × List Nat)) (m : SortedMap Nat (List VlanId))
      (hentries : entries.Pairwise fun a b => OrderedKey.before a.1 b.1 = true)
      (hm : ∀ e ∈ entries, e.1 ∉ (m.get? port).getD []) :
      ((entries.foldl (fun m e => e.2.foldl (addOnce e.1) m) m).get? port).getD [] =
        (m.get? port).getD [] ++ (entries.filter fun e => e.2.contains port).map Prod.fst := by
    induction entries generalizing m with
    | nil => simp
    | cons e entries ih =>
      obtain ⟨hhead, htail⟩ := List.pairwise_cons.1 hentries
      obtain ⟨hnew, hm⟩ := List.forall_mem_cons.1 hm
      have hone := get?_foldl_addOnce e.1 e.2 m port
      rw [List.foldl_cons, ih _ htail, hone]
      · by_cases hp : port ∈ e.2 <;> simp [hp, hnew]
      · intro e' he'
        rw [hone]
        have hne : e'.1 ≠ e.1 := (OrderedKey.ne_of_before (hhead e' he')).symm
        split <;> simp [hm e' he', hne]
  have hempty := h vlans.entries .empty vlans.ascending (by simp)
  simpa [vlansByPort] using hempty

/-- The VLANs of the ports of a switch are turned around from the ports of its VLANs. -/
theorem exists_vlanPorts {vlans : PortVlans} (h : c.portVlans = .ok vlans) :
    ∃ found, c.vlanPorts = .ok found ∧ ∀ switch, vlans.get? switch = (found.get? switch).map vlansByPort := by
  obtain ⟨found, hfound, h⟩ := bind_eq_ok.1 h
  refine ⟨found, hfound, fun switch => ?_⟩
  have hview : vlans = .ofList (found.entries.map fun e => (e.1, vlansByPort e.2)) := (Except.ok.inj h).symm
  have hkeys : ((found.entries.map fun e => (e.1, vlansByPort e.2)).map Prod.fst).Nodup := by
    rw [List.map_map]
    exact List.pairwise_map.2 (found.ascending.imp OrderedKey.ne_of_before)
  rw [hview, SortedMap.get?_ofList hkeys, SortedMap.lookup_map fun _ => vlansByPort]
  rfl

section TurnedAround

variable {vlans : PortVlans} {found : VlanPorts} {switch : String} {port : Nat} {v : VlanId}
  (h : vlans.get? switch = (found.get? switch).map vlansByPort)

include h

theorem heldAt_portVlans :
    heldAt vlans switch port =
      (((found.get? switch).getD .empty).entries.filter fun e => e.2.contains port).map Prod.fst := by
  rw [heldAt, h]
  cases found.get? switch with
  | none => rfl
  | some ports => exact get?_vlansByPort ports port

/-- A port has a VLAN if the VLAN has the port. -/
theorem mem_heldAt_portVlans : v ∈ heldAt vlans switch port ↔ port ∈ heldAt found switch v := by
  rw [heldAt_portVlans h, heldAt, List.mem_map]
  constructor
  · rintro ⟨e, he, rfl⟩
    obtain ⟨hmem, hport⟩ := List.mem_filter.1 he
    cases hs : found.get? switch with
    | none =>
      rw [hs] at hmem
      cases hmem
    | some ports =>
      rw [hs, Option.getD_some] at hmem
      rw [Option.bind_some, SortedMap.mem_entries_iff.1 hmem]
      simpa using hport
  · intro hport
    cases hs : found.get? switch with
    | none => simp [hs] at hport
    | some byVlan =>
      cases hv : byVlan.get? v with
      | none => simp [hs, hv] at hport
      | some ports =>
        refine ⟨(v, ports), List.mem_filter.2 ⟨SortedMap.mem_entries_iff.2 hv, ?_⟩, rfl⟩
        simpa [hs, hv] using hport

theorem pairwise_heldAt_portVlans : (heldAt vlans switch port).Pairwise fun v w => v.number < w.number := by
  rw [heldAt_portVlans h]
  refine List.pairwise_map.2 (List.Pairwise.filter _ ?_)
  exact (SortedMap.ascending _).imp fun h => by simpa [OrderedKey.before] using h

end TurnedAround

/-- A port carries the VLANs that are brought to the interfaces wired to it. -/
theorem mem_vlansOf {t : Topology} (ht : c.topology = .ok t) {switch : String} {port : Nat} {v : VlanId} :
    v ∈ t.vlansOf switch port ↔ c.Carries switch port v := by
  obtain ⟨found, hfound, hvlans⟩ := exists_vlanPorts (topology_eq_ok ht).1
  exact (mem_heldAt_portVlans (hvlans switch)).trans (mem_heldAt_vlanPorts hfound)

/-- The VLANs of a port are in ascending order. -/
theorem pairwise_vlansOf {t : Topology} (ht : c.topology = .ok t) (switch : String) (port : Nat) :
    (t.vlansOf switch port).Pairwise fun v w => v.number < w.number := by
  obtain ⟨found, -, hvlans⟩ := exists_vlanPorts (topology_eq_ok ht).1
  exact pairwise_heldAt_portVlans (hvlans switch)

/-- Two ports have the same list of VLANs if the same VLANs are brought to them. -/
theorem vlansOf_eq_iff {t : Topology} (ht : c.topology = .ok t) {switch : String} {p q : Nat} :
    t.vlansOf switch p = t.vlansOf switch q ↔ ∀ v, c.Carries switch p v ↔ c.Carries switch q v := by
  simp only [← mem_vlansOf ht]
  refine ⟨fun heq v => by rw [heq], fun hmem => ?_⟩
  have hnumbers : (t.vlansOf switch p).map (·.number) = (t.vlansOf switch q).map (·.number) := by
    refine (List.pairwise_map.2 (pairwise_vlansOf ht switch p)).eq_of_mem_iff
      (List.pairwise_map.2 (pairwise_vlansOf ht switch q)) fun n => ?_
    simp only [List.mem_map, hmem]
  exact List.map_injective_iff.2 (fun v w h => VlanId.ext h) hnumbers

/-! ## MTUs -/

/-- The explicit MTU of the interface with a label. -/
def mtuFor (c : Cluster) (interface : String) : Option Mtu := (c.interface? interface).bind Interface.mtu

/-- Some interface with the MTU is wired to the port. -/
def HasMtu (c : Cluster) (switch : String) (port : Nat) (m : Mtu) : Prop :=
  ∃ t ∈ c.templates, ∃ a, t.Wires a switch port ∧ c.mtuFor a = some m

/-- The MTU is the smallest of those of the interfaces wired to the port. -/
def LeastMtu (c : Cluster) (switch : String) (port : Nat) (m : Mtu) : Prop :=
  c.HasMtu switch port m ∧ ∀ n, c.HasMtu switch port n → m.value ≤ n.value

/-- The ports of a switch that the templates wire to interfaces with an MTU, each as often as they do. -/
def portsWithMtu (c : Cluster) (switch : String) (m : Mtu) : List Nat :=
  (c.templates.flatMap (·.bindings)).flatMap fun b =>
    if b.switch = switch ∧ c.mtuFor b.interface = some m then b.ports else []

theorem mem_portsWithMtu {switch : String} {port : Nat} {m : Mtu} :
    port ∈ c.portsWithMtu switch m ↔ c.HasMtu switch port m := by
  simp only [portsWithMtu, List.mem_flatMap, List.mem_ite_nil_right]
  constructor
  · rintro ⟨b, ⟨t, ht, hb⟩, ⟨hs, hmtu⟩, hport⟩
    exact ⟨t, ht, b.interface, ⟨b, hb, rfl, hs, hport⟩, hmtu⟩
  · rintro ⟨t, ht, -, ⟨b, hb, rfl, hs, hport⟩, hmtu⟩
    exact ⟨b, ⟨t, ht, hb⟩, ⟨hs, hmtu⟩, hport⟩

/-- The ports are listed under an MTU as often as they are wired to interfaces with it. -/
theorem heldAt_mtuPorts (c : Cluster) (switch : String) (m : Mtu) :
    heldAt c.mtuPorts switch m = c.portsWithMtu switch m := by
  rw [mtuPorts, portsWithMtu]
  refine (foldl_appends (v := fun found => heldAt found switch m) (fun found b _ => ?_) .empty).trans (List.nil_append _)
  rw [mtuFor]
  cases (c.interface? b.interface).bind Interface.mtu with
  | none => simp
  | some mtu => simp [heldAt_extended₂]

/-- The ports of an MTU are those that an interface with it is wired to. -/
theorem mem_heldAt_mtuPorts {switch : String} {port : Nat} {m : Mtu} :
    port ∈ heldAt c.mtuPorts switch m ↔ c.HasMtu switch port m := by
  rw [heldAt_mtuPorts, mem_portsWithMtu]

/-- The first entry of a map with a property is the one with the least key. -/
theorem find?_entries_eq_some {κ ν : Type} [OrderedKey κ] (m : SortedMap κ ν) (p : κ × ν → Bool) {e : κ × ν} :
    m.entries.find? p = some e ↔
      e ∈ m.entries ∧ p e = true ∧ ∀ e' ∈ m.entries, p e' = true → OrderedKey.before e'.1 e.1 = false := by
  have hasc := m.ascending
  generalize m.entries = entries at hasc
  induction entries with
  | nil => simp
  | cons x entries ih =>
    obtain ⟨hhead, htail⟩ := List.pairwise_cons.1 hasc
    rw [List.forall_mem_cons]
    cases hx : p x with
    | true =>
      rw [List.find?_cons_of_pos hx, Option.some.injEq]
      constructor
      · rintro rfl
        refine ⟨List.mem_cons_self, hx, fun _ => OrderedKey.irrefl _, fun e' he' _ => ?_⟩
        exact OrderedKey.before_asymm (hhead e' he')
      · rintro ⟨hmem, -, hleast, -⟩
        refine ((List.mem_cons.1 hmem).resolve_right fun hmem => ?_).symm
        rw [hhead e hmem] at hleast
        cases hleast rfl
    | false =>
      rw [List.find?_cons_of_neg (by simp [hx]), List.mem_cons]
      refine (ih htail).trans ⟨?_, ?_⟩
      · rintro ⟨hmem, hp, hleast⟩
        exact ⟨.inr hmem, hp, nofun, hleast⟩
      · rintro ⟨rfl | hmem, hp, -, hleast⟩
        · rw [hx] at hp
          cases hp
        · exact ⟨hmem, hp, hleast⟩

/-- A port has the smallest MTU of the interfaces wired to it. -/
theorem mtuOf_eq_some_iff {t : Topology} (ht : c.topology = .ok t) {switch : String} {port : Nat} {m : Mtu} :
    t.mtuOf switch port = some m ↔ c.LeastMtu switch port m := by
  rw [LeastMtu]
  simp only [← mem_heldAt_mtuPorts, (topology_eq_ok ht).2.1, Topology.mtuOf, heldAt]
  cases t.mtuPorts.get? switch with
  | none => simp
  | some mtus =>
    -- the ports that an MTU is listed with
    have hlisted (n : Mtu) : port ∈ (mtus.get? n).getD [] ↔ ∃ ports, (n, ports) ∈ mtus.entries ∧ port ∈ ports := by
      simp only [SortedMap.mem_entries_iff]
      cases mtus.get? n <;> simp
    simp only [Option.bind_some, hlisted, Option.map_eq_some_iff, find?_entries_eq_some]
    constructor
    · rintro ⟨⟨m, ports⟩, ⟨hmem, hport, hleast⟩, rfl⟩
      refine ⟨⟨ports, hmem, by simpa using hport⟩, ?_⟩
      rintro n ⟨ports', hmem', hport'⟩
      simpa [OrderedKey.before] using hleast _ hmem' (by simpa using hport')
    · rintro ⟨⟨ports, hmem, hport⟩, hleast⟩
      refine ⟨(m, ports), ⟨hmem, by simpa using hport, fun e he hport' => ?_⟩, rfl⟩
      have hle := hleast e.1 ⟨e.2, he, by simpa using hport'⟩
      simpa [OrderedKey.before] using hle

/-- Two ports have the same MTU if the smallest MTU of the interfaces wired to them is the same. -/
theorem mtuOf_eq_iff {t : Topology} (ht : c.topology = .ok t) {switch : String} {p q : Nat} :
    t.mtuOf switch p = t.mtuOf switch q ↔ ∀ m, c.LeastMtu switch p m ↔ c.LeastMtu switch q m := by
  rw [Option.ext_iff]
  simp only [mtuOf_eq_some_iff ht]

end Cluster

end SwitchFabric
