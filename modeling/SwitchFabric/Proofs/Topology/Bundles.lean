import SwitchFabric.Cluster.Builder
import SwitchFabric.Proofs.Topology.Channels
import SwitchFabric.Proofs.Topology.Masters
import SwitchFabric.Proofs.Topology.Wiring

/-!
# The ports of a port channel

The slaves of a bond are those of the last interface that is a bond with the label and has some
(`bondSlaves_eq_some_iff`).

The port groups of a switch are the rows of the ports that templates wire slaves of a bond to (`groupsOf_eq`). So each
port of a group is wired to a slave of the bond (`exists_wires`), and carries the VLANs that the template puts on the
bond.

A port channel gets the VLANs and the MTU of its lowest port, which are those of all its ports only if their wiring
brings the same to each of them (`bundled_ports_alike_iff`). Slaves with different MTUs, or another interface wired to
one of the ports, make them differ (`bundled_ports_differ`).
-/

namespace SwitchFabric.Cluster

variable {c : Cluster}

/-! ## Bonds and slaves -/

/-- The interface is a bond, and these are the slaves of its device, of which there are some. -/
def Bonds (c : Cluster) (i : Interface) (slaves : List String) : Prop :=
  i.isBond = true ∧ ∃ device, i.deviceName = some device ∧ c.slavesOf device = slaves ∧ slaves ≠ []

/-- The slaves of a label are those of the last interface with the label that is a bond with slaves. -/
def HasSlaves (c : Cluster) (bond : String) (slaves : List String) : Prop :=
  ∃ before i after, c.interfaces = before ++ i :: after ∧ i.label = bond ∧ c.Bonds i slaves ∧
    ∀ j ∈ after, j.label = bond → ∀ others, ¬ c.Bonds j others

/-- The slaves of a bond that has some. -/
def bonded (c : Cluster) (i : Interface) : Option (List String) :=
  if i.isBond = true then (i.deviceName.map c.slavesOf).filter (· ≠ []) else none

theorem bonded_eq_some_iff {i : Interface} {slaves : List String} : c.bonded i = some slaves ↔ c.Bonds i slaves := by
  rw [bonded, Bonds]
  by_cases hbond : i.isBond = true
  · rw [if_pos hbond, Option.filter_eq_some_iff]
    cases i.deviceName <;> simp [hbond]
  · simp [hbond]

theorem bondSlaves_eq_some_iff {bond : String} {slaves : List String} :
    c.bondSlaves.get? bond = some slaves ↔ c.HasSlaves bond slaves := by
  let written (i : Interface) : Option (List String) := if i.label = bond then c.bonded i else none
  have hwritten (i : Interface) (slaves : List String) :
      written i = some slaves ↔ i.label = bond ∧ c.Bonds i slaves := by
    rw [Option.ite_none_right_eq_some, bonded_eq_some_iff]
  have hlast : c.bondSlaves.get? bond = (c.interfaces.reverse.findSome? written).or none := by
    refine foldl_overwrites (v := fun m : SortedMap String (List String) => m.get? bond) (fun m i _ => ?_) .empty
    cases hbond : i.isBond with
    | false => simp [written, bonded, hbond]
    | true =>
      cases hdevice : i.deviceName with
      | none => simp [written, bonded, hbond, hdevice]
      | some device =>
        by_cases hslaves : c.slavesOf device = [] <;> by_cases hlabel : i.label = bond <;>
          simp [written, bonded, hbond, hdevice, hslaves, hlabel, Option.filter, eq_comm (a := bond)]
  rw [hlast, Option.or_none, List.findSome?_eq_some_iff]
  constructor
  · rintro ⟨after, i, before, hsplit, hi, hafter⟩
    obtain ⟨hlabel, hbonds⟩ := (hwritten i slaves).1 hi
    refine ⟨before.reverse, i, after.reverse, ?_, hlabel, hbonds, fun j hj hj' others hbonds => ?_⟩
    · rw [← List.reverse_reverse c.interfaces, hsplit]
      simp
    · have hsome := (hwritten j others).2 ⟨hj', hbonds⟩
      rw [hafter j (List.mem_reverse.1 hj)] at hsome
      cases hsome
  · rintro ⟨before, i, after, hsplit, hlabel, hbonds, hafter⟩
    refine ⟨after.reverse, i, before.reverse, by simp [hsplit], (hwritten i slaves).2 ⟨hlabel, hbonds⟩, fun j hj => ?_⟩
    refine Option.eq_none_iff_forall_ne_some.2 fun others hj' => ?_
    obtain ⟨hlabel', hbonds'⟩ := (hwritten j others).1 hj'
    exact hafter j (List.mem_reverse.1 hj) hlabel' others hbonds'

/-- The slaves of a bond are those of the device of an interface that is a bond with its label. -/
theorem exists_bond_of_bondSlaves {bond : String} {slaves : List String}
    (h : c.bondSlaves.get? bond = some slaves) :
    ∃ i ∈ c.interfaces, ∃ device, i.label = bond ∧ i.isBond = true ∧ i.deviceName = some device ∧
      slaves = c.slavesOf device := by
  obtain ⟨before, i, after, hsplit, hlabel, ⟨hbond, device, hdevice, hslaves, -⟩, -⟩ := bondSlaves_eq_some_iff.1 h
  have hmem : i ∈ c.interfaces := hsplit ▸ List.mem_append_right before List.mem_cons_self
  exact ⟨i, hmem, device, hlabel, hbond, hdevice, hslaves.symm⟩

/-! ## Rows of ports -/

/-- The port lists of the slaves that a template wires to a switch. -/
def slaveLists (slaves : List String) (t : NodeTemplate) (switch : String) : List (List Nat) :=
  (t.bindings.filter fun b => slaves.contains b.interface && b.switch == switch).map (·.ports)

/-- The port groups that a template makes of the slaves' ports on a switch. -/
def rowsAt (slaves : List String) (t : NodeTemplate) (switch : String) : List PortGroup :=
  (transposed (slaveLists slaves t switch)).filterMap PortGroup.ofPorts

theorem getD_slavePorts (slaves : List String) (t : NodeTemplate) (switch : String) :
    ((slavePorts slaves t).get? switch).getD [] = slaveLists slaves t switch := by
  have h := foldl_appends (v := fun m : SortedMap String (List (List Nat)) => (m.get? switch).getD [])
    (f := fun m b => extended b.switch [b.ports] m) (g := fun b => if b.switch = switch then [b.ports] else [])
    (l := t.bindings.filter fun b => slaves.contains b.interface) (fun m b _ => ?_) .empty
  · rw [slavePorts, h, slaveLists]
    induction t.bindings with
    | nil => rfl
    | cons b bindings ih =>
      by_cases hb : b.interface ∈ slaves <;> by_cases hs : b.switch = switch <;> simp_all
  · rw [extended, SortedMap.get?_update]
    by_cases hs : switch = b.switch
    · simp [hs]
    · simp [hs, Ne.symm hs]

/-- What a template adds to the port groups of a switch. -/
theorem heldAt_groupBond (bond : String) (slaves : List String) (grouped : Grouped) (t : NodeTemplate)
    (key : String × String × String) (switch : String) :
    heldAt (c.groupBond bond slaves grouped t) key switch = heldAt grouped key switch ++
      if t.hasInterface bond = true ∧ (bond, t.label, c.masterOf switch (c.mlagPeer switch)) = key then
        rowsAt slaves t switch
      else [] := by
  rw [groupBond]
  cases t.hasInterface bond with
  | false => simp
  | true =>
    let rows := fun lists : List (List Nat) =>
      if (bond, t.label, c.masterOf switch (c.mlagPeer switch)) = key then
        (transposed lists).filterMap PortGroup.ofPorts else []
    rw [if_pos rfl, foldl_appends (v := fun m => heldAt m key switch)
      (g := fun e => if e.1 = switch then rows e.2 else [])]
    · rw [SortedMap.flatMap_entries, rowsAt, ← getD_slavePorts]
      cases (slavePorts slaves t).get? switch <;> simp [rows, transposed]
    · rintro grouped ⟨s, lists⟩ -
      rw [heldAt_extended₂]
      by_cases hs : s = switch
      · subst hs
        simp [rows]
      · simp [hs]

/-- The port groups of a switch in a channel group: the rows that the templates with the group's label make of the
slaves' ports, template by template. -/
theorem groupsOf_uncheckedGroup {g : ChannelGroup} (hmem : g ∈ c.uncheckedGroups) (switch : String) :
    g.groupsOf switch = ((c.bondSlaves.get? g.bond).map fun slaves => c.templates.flatMap fun t =>
      if t.hasInterface g.bond = true ∧ (g.bond, t.label, c.masterOf switch (c.mlagPeer switch)) = g.key then
        rowsAt slaves t switch
      else []).getD [] := by
  have hheld := foldl_appends (v := fun m : Grouped => heldAt m g.key switch)
    (f := fun grouped e => c.templates.foldl (c.groupBond e.1 e.2) grouped) (l := c.bondSlaves.entries)
    (fun grouped e _ => foldl_appends (v := fun m : Grouped => heldAt m g.key switch)
      (fun grouped t _ => heldAt_groupBond e.1 e.2 grouped t g.key switch) grouped) .empty
  have hget : c.grouped.get? g.key = some g.members := mem_uncheckedGroups.1 hmem
  have hgroups : heldAt c.grouped g.key switch = g.groupsOf switch := by
    rw [heldAt, hget, Option.bind_some, ChannelGroup.groupsOf]
  rw [← hgroups, grouped, hheld, heldAt_empty, List.nil_append, ← SortedMap.flatMap_entries]
  refine List.flatMap_congr fun e _ => ?_
  by_cases hbond : e.1 = g.bond
  · rw [if_pos hbond, hbond]
  · rw [if_neg hbond]
    refine List.flatMap_eq_nil_iff.2 fun t _ => if_neg fun h => hbond ?_
    exact (Prod.mk.inj h.2).1

theorem groupsOf_eq {groups : List ChannelGroup} (hg : c.channelGroups = .ok groups) {g : ChannelGroup}
    (hmem : g ∈ groups) (switch : String) :
    g.groupsOf switch = ((c.bondSlaves.get? g.bond).map fun slaves => c.templates.flatMap fun t =>
      if t.hasInterface g.bond = true ∧ (g.bond, t.label, c.masterOf switch (c.mlagPeer switch)) = g.key then
        rowsAt slaves t switch
      else []).getD [] := by
  obtain ⟨-, rfl⟩ := channelGroups_eq_ok.1 hg
  exact groupsOf_uncheckedGroup hmem switch

/-- A port of a row is one of a slave that is wired to the switch. -/
theorem wires_of_mem_rowsAt {slaves : List String} {t : NodeTemplate} {switch : String} {ports : PortGroup}
    (hrow : ports ∈ rowsAt slaves t switch) {port : Nat} (hport : port ∈ ports.ports) :
    ∃ a ∈ slaves, t.Wires a switch port := by
  obtain ⟨row, hrow, hports⟩ := List.mem_filterMap.1 hrow
  have heq : ports.ports = row := by
    unfold PortGroup.ofPorts at hports
    split at hports
    · cases hports
      rfl
    · cases hports
  obtain ⟨i, -, rfl⟩ := List.mem_map.1 hrow
  rw [heq] at hport
  obtain ⟨l, hl, hi⟩ := List.mem_filterMap.1 hport
  obtain ⟨b, hb, rfl⟩ := List.mem_map.1 hl
  obtain ⟨hmem, hb⟩ := List.mem_filter.1 hb
  rw [Bool.and_eq_true, beq_iff_eq, List.contains_iff_mem] at hb
  exact ⟨b.interface, hb.1, b, hmem, rfl, hb.2, List.mem_of_getElem? hi⟩

/-- Each port of a group is wired to a slave of the group's bond, by one template with the group's label. -/
theorem exists_wires {groups : List ChannelGroup} (hg : c.channelGroups = .ok groups) {g : ChannelGroup}
    (hmem : g ∈ groups) {switch : String} {ports : PortGroup} (hports : ports ∈ g.groupsOf switch) :
    ∃ tmpl ∈ c.templates, ∃ bond ∈ c.interfaces, ∃ device, tmpl.label = g.template ∧ bond.label = g.bond ∧
      bond.isBond = true ∧ bond.deviceName = some device ∧
      ∀ p ∈ ports.ports, ∃ a ∈ c.slavesOf device, tmpl.Wires a switch p := by
  rw [groupsOf_eq hg hmem] at hports
  cases hs : c.bondSlaves.get? g.bond with
  | none =>
    rw [hs] at hports
    cases hports
  | some slaves =>
    rw [hs, Option.map_some, Option.getD_some] at hports
    obtain ⟨tmpl, htmpl, hrow⟩ := List.mem_flatMap.1 hports
    split at hrow
    · next hkey =>
      obtain ⟨bond, hbond, device, hlabel, his, hdevice, rfl⟩ := exists_bond_of_bondSlaves hs
      have htemplate : tmpl.label = g.template := (Prod.mk.inj (Prod.mk.inj hkey.2).2).1
      exact ⟨tmpl, htmpl, bond, hbond, device, htemplate, hlabel, his, hdevice,
        fun p hp => wires_of_mem_rowsAt hrow hp⟩
    · cases hrow

/-! ## Ports that are alike -/

/-- For each interface that is wired to the first port, one with the same MTU and at least its VLANs is wired to the
second. -/
def WiredAlike (c : Cluster) (switch : String) (p q : Nat) : Prop :=
  ∀ t ∈ c.templates, ∀ a, t.Wires a switch p → ∃ t' ∈ c.templates, ∃ b, t'.Wires b switch q ∧
    c.mtuFor a = c.mtuFor b ∧ ∀ v, c.Brings t a v → c.Brings t' b v

theorem WiredAlike.carries {switch : String} {p q : Nat} (h : c.WiredAlike switch p q) {v : VlanId}
    (hv : c.Carries switch p v) : c.Carries switch q v := by
  obtain ⟨t, ht, a, hwires, hbrings⟩ := hv
  obtain ⟨t', ht', b, hwires', -, hall⟩ := h t ht a hwires
  exact ⟨t', ht', b, hwires', hall v hbrings⟩

theorem WiredAlike.hasMtu {switch : String} {p q : Nat} (h : c.WiredAlike switch p q) {m : Mtu}
    (hm : c.HasMtu switch p m) : c.HasMtu switch q m := by
  obtain ⟨t, ht, a, hwires, hmtu⟩ := hm
  obtain ⟨t', ht', b, hwires', hsame, -⟩ := h t ht a hwires
  exact ⟨t', ht', b, hwires', hsame.symm.trans hmtu⟩

/-- The ports of a group are all wired to slaves of one bond, by one template, and carry the VLANs that this template
puts on the bond. They have the same VLANs and the same MTU if and only if the same VLANs and the same smallest MTU are
wired to all of them; so they do if they are wired to interfaces that are alike. -/
theorem bundled_ports_alike_iff {t : Topology} (ht : c.topology = .ok t) {g : ChannelGroup}
    (hg : g ∈ t.channelGroups) {switch : String} {groups : List PortGroup}
    (hm : (switch, groups) ∈ g.members.entries) {ports : PortGroup} (hports : ports ∈ groups) :
    (∃ tmpl ∈ c.templates, ∃ bond ∈ c.interfaces, ∃ device, tmpl.label = g.template ∧ bond.label = g.bond ∧
      bond.isBond = true ∧ bond.deviceName = some device ∧
      ∀ p ∈ ports.ports, (∃ a ∈ c.slavesOf device, tmpl.Wires a switch p) ∧
        ∀ i d, c.ListsVlan tmpl i d → d.rawDevice = device → d.vlan ∈ t.vlansOf switch p) ∧
    ((∀ p ∈ ports.ports, ∀ q ∈ ports.ports,
        t.vlansOf switch p = t.vlansOf switch q ∧ t.mtuOf switch p = t.mtuOf switch q) ↔
      ∀ p ∈ ports.ports, ∀ q ∈ ports.ports,
        (∀ v, c.Carries switch p v → c.Carries switch q v) ∧ ∀ m, c.LeastMtu switch p m → c.LeastMtu switch q m) ∧
    ((∀ p ∈ ports.ports, ∀ q ∈ ports.ports, c.WiredAlike switch p q) →
      ∀ p ∈ ports.ports, ∀ q ∈ ports.ports,
        t.vlansOf switch p = t.vlansOf switch q ∧ t.mtuOf switch p = t.mtuOf switch q) := by
  have hgroup : ports ∈ g.groupsOf switch := by
    rw [ChannelGroup.groupsOf, SortedMap.mem_entries_iff.1 hm]
    exact hports
  have hiff : (∀ p ∈ ports.ports, ∀ q ∈ ports.ports,
        t.vlansOf switch p = t.vlansOf switch q ∧ t.mtuOf switch p = t.mtuOf switch q) ↔
      ∀ p ∈ ports.ports, ∀ q ∈ ports.ports,
        (∀ v, c.Carries switch p v → c.Carries switch q v) ∧
          ∀ m, c.LeastMtu switch p m → c.LeastMtu switch q m := by
    simp only [vlansOf_eq_iff ht, mtuOf_eq_iff ht]
    constructor
    · intro h p hp q hq
      exact ⟨fun v => ((h p hp q hq).1 v).1, fun m => ((h p hp q hq).2 m).1⟩
    · intro h p hp q hq
      exact ⟨fun v => ⟨(h p hp q hq).1 v, (h q hq p hp).1 v⟩, fun m => ⟨(h p hp q hq).2 m, (h q hq p hp).2 m⟩⟩
  refine ⟨?_, hiff, fun halike => hiff.2 fun p hp q hq => ⟨fun v => (halike p hp q hq).carries, ?_⟩⟩
  · obtain ⟨tmpl, htmpl, bond, hbond, device, htemplate, hlabel, his, hdevice, hwires⟩ :=
      exists_wires (topology_eq_ok ht).2.2.1 hg hgroup
    refine ⟨tmpl, htmpl, bond, hbond, device, htemplate, hlabel, his, hdevice, fun p hp => ⟨hwires p hp, ?_⟩⟩
    rintro i d hlists rfl
    obtain ⟨a, ha, hwired⟩ := hwires p hp
    exact (mem_vlansOf ht).2 ⟨tmpl, htmpl, a, hwired, i, d, hlists, rfl, List.mem_cons_of_mem _ ha⟩
  · rintro m ⟨hhas, hleast⟩
    exact ⟨(halike p hp q hq).hasMtu hhas, fun n hn => hleast n ((halike q hq p hp).hasMtu hn)⟩

/-- A bond of two slaves that are wired to ports 5 and 6 of one switch, with VLAN 20 on the bond. The first slave has
the MTU 9000. A VLAN interface of the second may be wired to ports as well. -/
def bondedPorts (mtu : Nat) (others : List Binding) : Cluster :=
  bare.withSwitch "data_1"
    |>.withInterface (.bond "bond0")
    |>.withInterface ((Interface.bondSlave "eth10" "bond0").withMtu 9000)
    |>.withInterface ((Interface.bondSlave "eth11" "bond0").withMtu mtu)
    |>.withInterface (.ofVlan "bond0" 20)
    |>.withInterface (.ofVlan "eth11" 30)
    |>.withTemplate "compute" ([⟨"data_1", "eth10", [5]⟩, ⟨"data_1", "eth11", [6]⟩] ++ others)
    |>.withTemplateInterface "compute" "bond0"
    |>.withTemplateInterface "compute" "bond0.20"

/-- With the same MTU on both slaves and nothing but them on the ports, the ports are wired alike. -/
theorem wiredAlike_bondedPorts (p : Nat) {q : Nat} (hq : q ∈ [5, 6]) :
    (bondedPorts 9000 []).WiredAlike "data_1" p q := by
  let c := bondedPorts 9000 []
  have hslaves : ∀ t ∈ c.templates, ∀ b ∈ t.bindings, b.interface ∈ c.slavesOf "bond0" := by decide +kernel
  have hwired : ∀ t ∈ c.templates, ∀ q ∈ [5, 6], ∃ b ∈ t.bindings, b.switch = "data_1" ∧ q ∈ b.ports := by
    decide +kernel
  have hmtu : ∀ a ∈ c.slavesOf "bond0", c.mtuFor a = some ⟨9000⟩ := by decide +kernel
  have hplain : ∀ a ∈ c.slavesOf "bond0", ∀ i ∈ c.interface? a, i.vlanDevice.toOption = some none := by
    decide +kernel
  have hmaster : ∀ i ∈ c.interfaces, i.label ∈ c.slavesOf "bond0" → i.masterDevice = some "bond0" := by
    decide +kernel
  rintro t ht - ⟨b, hb, rfl, -, -⟩
  obtain ⟨b', hb', hs, hport⟩ := hwired t ht q hq
  have hslave := hslaves t ht b hb
  have hslave' := hslaves t ht b' hb'
  refine ⟨t, ht, b'.interface, ⟨b', hb', rfl, hs, hport⟩, (hmtu _ hslave).trans (hmtu _ hslave').symm, ?_⟩
  rintro v ⟨i, d, hlists, hv, hmember⟩
  rcases List.mem_cons.1 hmember with heq | hraw
  · -- a slave is no VLAN interface
    have hnone := hplain _ hslave i (heq ▸ hlists.first)
    rw [hlists.device] at hnone
    cases hnone
  · obtain ⟨j, hj, hlabel⟩ := List.mem_map.1 hraw
    obtain ⟨hmem, hdevice⟩ := List.mem_filter.1 hj
    have hbond := hmaster j hmem (hlabel ▸ hslave)
    rw [hbond, beq_iff_eq, Option.some.injEq] at hdevice
    exact ⟨i, d, hlists, hv, List.mem_cons_of_mem _ (hdevice ▸ hslave')⟩

theorem bundled_ports_alike_bondedPorts :
    let c := bondedPorts 9000 []
    ∃ t, c.topology = .ok t ∧ ∃ g ∈ t.channelGroups, ∃ groups, ("data_1", groups) ∈ g.members.entries ∧
      ∃ ports ∈ groups, ports.ports = [5, 6] ∧ t.mtuOf "data_1" 5 = some ⟨9000⟩ ∧
        (∀ p ∈ ports.ports, ∀ q ∈ ports.ports, c.WiredAlike "data_1" p q) ∧
        ∀ p ∈ ports.ports, ∀ q ∈ ports.ports,
          t.vlansOf "data_1" p = t.vlansOf "data_1" q ∧ t.mtuOf "data_1" p = t.mtuOf "data_1" q := by
  intro c
  have ht : c.topology = .ok (c.topology.toOption.getD .empty) := rfl
  obtain ⟨-, -, halike⟩ := bundled_ports_alike_iff ht (List.mem_singleton_self _) (List.mem_singleton_self _)
    (List.mem_singleton_self _)
  refine ⟨_, ht, _, List.mem_singleton_self _, _, List.mem_singleton_self _, _, List.mem_singleton_self _, rfl,
    by decide +kernel, ?_⟩
  have hwired (p q : Nat) (hq : q ∈ [5, 6]) : c.WiredAlike "data_1" p q := wiredAlike_bondedPorts p hq
  exact ⟨fun p _ q hq => hwired p q hq, halike fun p _ q hq => hwired p q hq⟩

/-- Slaves with different MTUs, and a VLAN interface of one of them that is wired to its port, make the ports of a
group differ. -/
theorem bundled_ports_differ :
    let c := bondedPorts 1500 [⟨"data_1", "eth11.30", [6]⟩]
    c.check = .ok () ∧ ∃ t, c.topology = .ok t ∧ ∃ g ∈ t.channelGroups, ∃ groups,
      ("data_1", groups) ∈ g.members.entries ∧ ∃ ports ∈ groups, ports.ports = [5, 6] ∧
        t.vlansOf "data_1" 5 ≠ t.vlansOf "data_1" 6 ∧ t.mtuOf "data_1" 5 ≠ t.mtuOf "data_1" 6 := by
  intro c
  refine ⟨rfl, _, rfl, _, List.mem_singleton_self _, _, List.mem_singleton_self _, _, List.mem_singleton_self _, rfl, ?_, ?_⟩
  · decide +kernel
  · decide +kernel

end SwitchFabric.Cluster
