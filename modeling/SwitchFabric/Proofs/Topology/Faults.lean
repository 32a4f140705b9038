import SwitchFabric.Proofs.Topology.Bundles
import SwitchFabric.Proofs.Topology.Pairs
import SwitchFabric.Proofs.Topology.PortVlans

/-!
# Why the views of a checked definition cannot be derived

The checks of a definition leave six ways in which its views can be out of reach (`Fault`, `topology_or_fault`): a VLAN
interface whose device name is no VLAN's, port groups that do not line up, an inter-peer link that is missing, incomplete
or has no valid prefix, and a virtual address without a management network.

References are not among them. A peer is a data switch, since the checks say so. The members of a channel group have one
master, and at most two switches have a master in common (`Checked.size_members_le`). So a group of two consists of the
master and its peer, and all that can be wrong with it is the number of their port groups (`Checked.misaligned`), which
the wiring decides (`mem_keys_members_iff`, `groupsOf_eq_rowsOf`).
-/

namespace SwitchFabric.Cluster

variable {c : Cluster}

/-! ## The members of channel groups -/

/-- A template with a label lists a bond, and wires a slave of it to a switch. -/
def WiresBond (c : Cluster) (bond template switch : String) : Prop :=
  ∃ slaves, c.bondSlaves.get? bond = some slaves ∧ ∃ t ∈ c.templates, t.hasInterface bond = true ∧
    t.label = template ∧ ∃ b ∈ t.bindings, b.interface ∈ slaves ∧ b.switch = switch

/-- The port groups that the templates with a label make of a bond's slaves on a switch, template by template. -/
def rowsOf (c : Cluster) (bond template switch : String) : List PortGroup :=
  ((c.bondSlaves.get? bond).map fun slaves => c.templates.flatMap fun t =>
    if t.hasInterface bond = true ∧ t.label = template then rowsAt slaves t switch else []).getD []

/-- A switch has port channels filed under a key. -/
def HasMember (grouped : Grouped) (key : String × String × String) (switch : String) : Prop :=
  ∃ members, grouped.get? key = some members ∧ switch ∈ members.keys

theorem hasMember_extended₂ {grouped : Grouped} {key key' : String × String × String} {switch switch' : String}
    {rows : List PortGroup} :
    HasMember (extended₂ key' switch' rows grouped) key switch ↔
      HasMember grouped key switch ∨ key' = key ∧ switch' = switch := by
  rw [HasMember, get?_extended₂]
  by_cases hkey : key = key'
  · subst hkey
    have hkeys (members : SortedMap String (List PortGroup)) :
        switch ∈ (extended switch' rows members).keys ↔ switch ∈ members.keys ∨ switch' = switch := by
      rw [mem_keys_extended, or_comm, eq_comm]
    have hempty : switch ∉ (SortedMap.empty : SortedMap String (List PortGroup)).keys := nofun
    cases hget : grouped.get? key with
    | none => simp only [HasMember, hget, if_true, Option.getD_none, Option.some.injEq, exists_eq_left', hkeys, hempty,
        reduceCtorEq, false_and, exists_false, true_and]
    | some members => simp [HasMember, hget, hkeys]
  · simp [HasMember, hkey, Ne.symm hkey]

theorem mem_keys_slavePorts {slaves : List String} {t : NodeTemplate} {switch : String} :
    switch ∈ (slavePorts slaves t).keys ↔ ∃ b ∈ t.bindings, b.interface ∈ slaves ∧ b.switch = switch := by
  have h := foldl_gathers (P := fun m : SortedMap String (List (List Nat)) => switch ∈ m.keys)
    (Q := fun b => b.switch = switch) (f := fun m b => extended b.switch [b.ports] m)
    (l := t.bindings.filter fun b => slaves.contains b.interface)
    (fun m b _ => by rw [mem_keys_extended, or_comm, eq_comm]) .empty
  rw [slavePorts, h]
  simp [SortedMap.keys, SortedMap.empty, and_assoc]

/-- A template files port channels for the switches that it wires slaves to, under their masters. -/
theorem hasMember_groupBond {bond : String} {slaves : List String} {grouped : Grouped} {t : NodeTemplate}
    {key : String × String × String} {switch : String} :
    HasMember (c.groupBond bond slaves grouped t) key switch ↔ HasMember grouped key switch ∨
      t.hasInterface bond = true ∧ (bond, t.label, c.masterOf switch (c.mlagPeer switch)) = key ∧
        ∃ b ∈ t.bindings, b.interface ∈ slaves ∧ b.switch = switch := by
  rw [groupBond]
  cases t.hasInterface bond with
  | false => simp
  | true =>
    have h := foldl_gathers (P := fun m : Grouped => HasMember m key switch)
      (Q := fun e => (bond, t.label, c.masterOf e.1 (c.mlagPeer e.1)) = key ∧ e.1 = switch)
      (f := fun m e => extended₂ (bond, t.label, c.masterOf e.1 (c.mlagPeer e.1)) e.1
        ((transposed e.2).filterMap PortGroup.ofPorts) m)
      (l := (slavePorts slaves t).entries) (fun m e _ => hasMember_extended₂) grouped
    rw [← mem_keys_slavePorts, SortedMap.keys, List.mem_map]
    refine h.trans (or_congr_right ⟨?_, ?_⟩)
    · rintro ⟨e, he, hkey, rfl⟩
      exact ⟨rfl, hkey, e, he, rfl⟩
    · rintro ⟨-, hkey, e, he, rfl⟩
      exact ⟨e, he, hkey, rfl⟩

theorem hasMember_grouped {bond template master switch : String} :
    HasMember c.grouped (bond, template, master) switch ↔
      c.WiresBond bond template switch ∧ master = c.masterOf switch (c.mlagPeer switch) := by
  have h := foldl_gathers (P := fun m : Grouped => HasMember m (bond, template, master) switch)
    (Q := fun e => ∃ t ∈ c.templates, t.hasInterface e.1 = true ∧
      (e.1, t.label, c.masterOf switch (c.mlagPeer switch)) = (bond, template, master) ∧
        ∃ b ∈ t.bindings, b.interface ∈ e.2 ∧ b.switch = switch)
    (f := fun grouped e => c.templates.foldl (c.groupBond e.1 e.2) grouped) (l := c.bondSlaves.entries)
    (fun grouped e _ => foldl_gathers (P := fun m : Grouped => HasMember m (bond, template, master) switch)
      (f := c.groupBond e.1 e.2) (fun grouped t _ => hasMember_groupBond) grouped) .empty
  have hempty : ¬ HasMember .empty (bond, template, master) switch := by
    rintro ⟨members, hget, -⟩
    cases hget
  rw [grouped, h, or_iff_right hempty]
  constructor
  · rintro ⟨⟨label, slaves⟩, he, t, ht, hlists, hkey, hb⟩
    obtain ⟨rfl, htail⟩ := Prod.mk.inj hkey
    obtain ⟨hlabel, hmaster⟩ := Prod.mk.inj htail
    exact ⟨⟨slaves, SortedMap.mem_entries_iff.1 he, t, ht, hlists, hlabel, hb⟩, hmaster.symm⟩
  · rintro ⟨⟨slaves, hs, t, ht, hlists, rfl, hb⟩, rfl⟩
    exact ⟨(bond, slaves), SortedMap.mem_entries_iff.2 hs, t, ht, hlists, rfl, hb⟩

/-- The members of a group are the switches that slaves of its bond are wired to and that have its master. -/
theorem mem_keys_members_iff {g : ChannelGroup} (hmem : g ∈ c.uncheckedGroups) {switch : String} :
    switch ∈ g.members.keys ↔
      c.WiresBond g.bond g.template switch ∧ g.master = c.masterOf switch (c.mlagPeer switch) := by
  rw [← hasMember_grouped, HasMember, mem_uncheckedGroups.1 hmem]
  simp

theorem groupsOf_eq_rowsOf {g : ChannelGroup} (hmem : g ∈ c.uncheckedGroups) {switch : String}
    (hs : switch ∈ g.members.keys) : g.groupsOf switch = c.rowsOf g.bond g.template switch := by
  have hmaster := ((mem_keys_members_iff hmem).1 hs).2
  rw [groupsOf_uncheckedGroup hmem, rowsOf]
  simp [ChannelGroup.key, hmaster]

/-- Different switches with one master are the master and its peer, so there are at most two of them. -/
theorem Checked.size_members_le (h : c.Checked) {g : ChannelGroup} (hmem : g ∈ c.uncheckedGroups) :
    g.members.size ≤ 2 := by
  have hkeys := h.member_uncheckedGroup hmem
  have hasc := g.members.ascending
  rw [SortedMap.keys] at hkeys
  rw [SortedMap.size]
  rcases hentries : g.members.entries with _ | ⟨x, _ | ⟨y, _ | ⟨z, rest⟩⟩⟩
  · simp
  · simp
  · simp
  · rw [hentries] at hkeys hasc
    obtain ⟨hx, hasc⟩ := List.pairwise_cons.1 hasc
    have hxy : x.1 ≠ y.1 := OrderedKey.ne_of_before (hx y (by simp))
    have hxz : x.1 ≠ z.1 := OrderedKey.ne_of_before (hx z (by simp))
    have hyz : y.1 ≠ z.1 := OrderedKey.ne_of_before (List.rel_of_pairwise_cons hasc List.mem_cons_self)
    have hmaster : ∀ e ∈ x :: y :: z :: rest, g.master = c.masterOf e.1 (c.mlagPeer e.1) :=
      fun e he => (hkeys e.1 (List.mem_map_of_mem he)).2
    -- the first would have both others as its peer
    obtain ⟨hy, -⟩ := h.peers_of_masterOf_eq hxy ((hmaster x (by simp)).symm.trans (hmaster y (by simp)))
    obtain ⟨hz, -⟩ := h.peers_of_masterOf_eq hxz ((hmaster x (by simp)).symm.trans (hmaster z (by simp)))
    exact absurd (Option.some.inj (hy.symm.trans hz)) hyz

/-! ## Faults -/

/-- Why the views of a checked definition cannot be derived. -/
inductive Fault (c : Cluster) : ConfigError → Prop where
  /-- A template lists an interface that is meant for a VLAN, whose device name is no VLAN's. -/
  | vlanInterface {t : NodeTemplate} {i : Interface} {device : String} : t ∈ c.templates → i.label ∈ t.interfaces →
    c.interface? i.label = some i → i.vlanDevice = .error (.invalidVlanInterface i.label device) →
    Fault c (.invalidVlanInterface i.label device)
  /-- Slaves of a bond are wired by templates with one label to a master and its peer, with different numbers of
  port groups on the two. -/
  | misaligned {bond template master peer : String} : c.mlagPeer master = some peer → master ≠ peer →
    c.masterOf master (some peer) = master →
    c.WiresBond bond template master → c.WiresBond bond template peer →
    (c.rowsOf bond template master).length ≠ (c.rowsOf bond template peer).length →
    Fault c (.misalignedGroups bond template master peer)
  /-- A switch has no link to its peer. -/
  | missingLink {s : SwitchRecord} {peer : String} : s ∈ c.switches → s.mlagPeer = some peer →
    (∀ l ∈ s.links, l.target ≠ peer) → Fault c (.missingMlagLink s.label peer)
  /-- A setting of the link from a switch to its peer is missing. -/
  | incompleteLink {s : SwitchRecord} {peer field : String} : s ∈ c.switches → s.mlagPeer = some peer →
    field ∈ ["vlan", "ports", "ip", "prefix"] → Fault c (.incompleteMlagLink s.label peer field)
  | address (e : ValueError) : Fault c (.invalidAddress e)
  | mgmtNetwork : c.mgmtNetworks.findSome? (·.length) = none → Fault c .missingMgmtNetwork

/-! ### VLANs -/

theorem fault_portVlans {e : ConfigError} (h : c.portVlans = .error e) : c.Fault e := by
  obtain ⟨t, ht, i, hlisted, hi, herror⟩ := exists_of_portVlans_error h
  obtain ⟨-, rfl⟩ := Interface.vlanDevice_eq_error_iff.1 herror
  exact .vlanInterface ht hlisted hi herror

/-! ### Channel groups -/

/-- All that can be wrong with a group is that its master and the master's peer have different numbers of port
groups. -/
theorem Checked.misaligned (h : c.Checked) {g : ChannelGroup} (hmem : g ∈ c.uncheckedGroups) {e : ConfigError}
    (he : checkGroup g = .error e) : c.Fault e := by
  have hle := h.size_members_le hmem
  unfold checkGroup at he
  split at he
  · cases he
  · cases he
  · next hsize =>
    obtain ⟨⟨a, ga⟩, ⟨b, gb⟩, hentries⟩ := List.length_eq_two.1 hsize
    have hasc := g.members.ascending
    rw [hentries] at hasc
    have hne : a ≠ b := OrderedKey.ne_of_before (List.rel_of_pairwise_cons hasc List.mem_cons_self)
    have hkeys : ∀ switch, switch ∈ g.members.keys ↔ switch = a ∨ switch = b := fun switch => by
      simp [SortedMap.keys, hentries]
    obtain ⟨hwiresa, hmastera⟩ := (mem_keys_members_iff hmem).1 ((hkeys a).2 (.inl rfl))
    obtain ⟨hwiresb, hmasterb⟩ := (mem_keys_members_iff hmem).1 ((hkeys b).2 (.inr rfl))
    obtain ⟨hpeera, hpeerb⟩ := h.peers_of_masterOf_eq hne (hmastera.symm.trans hmasterb)
    have hrowsa := groupsOf_eq_rowsOf hmem ((hkeys a).2 (.inl rfl))
    have hrowsb := groupsOf_eq_rowsOf hmem ((hkeys b).2 (.inr rfl))
    have hgeta : g.members.get? a = some ga := SortedMap.mem_entries_iff.1 (by simp [hentries])
    have hgetb : g.members.get? b = some gb := SortedMap.mem_entries_iff.1 (by simp [hentries])
    rw [ChannelGroup.groupsOf, hgeta, Option.getD_some] at hrowsa
    rw [ChannelGroup.groupsOf, hgetb, Option.getD_some] at hrowsb
    -- the master is one of the two
    rw [hpeera] at hmastera
    rw [hpeerb] at hmasterb
    rcases masterOf_or (c := c) a b with hm | hm
    · have hga : g.master = a := hmastera.trans hm
      rw [hentries, hga, hgeta] at he
      simp only [List.find?_cons, bne_self_eq_false, bne_iff_ne.2 hne.symm] at he
      split at he
      · cases he
      · next hlength =>
        cases he
        refine .misaligned hpeera hne hm hwiresa hwiresb ?_
        rw [← hrowsa, ← hrowsb]
        simpa using hlength
    · have hgb : g.master = b := hmastera.trans hm
      have hm' : c.masterOf b (some a) = b := hmasterb.symm.trans hgb
      rw [hentries, hgb, hgetb] at he
      simp only [List.find?_cons, bne_iff_ne.2 hne] at he
      split at he
      · cases he
      · next hlength =>
        cases he
        refine .misaligned hpeerb hne.symm hm' hwiresb hwiresa ?_
        rw [← hrowsa, ← hrowsb]
        simpa using hlength
  · next hzero hone htwo =>
    have hne : g.members.size ≠ 0 ∧ g.members.size ≠ 1 ∧ g.members.size ≠ 2 := ⟨hzero, hone, htwo⟩
    omega

theorem Checked.fault_channelGroups (h : c.Checked) {e : ConfigError} (he : c.channelGroups = .error e) :
    c.Fault e := by
  have hrun : c.channelGroups = (c.uncheckedGroups.forM checkGroup >>= fun _ => pure c.uncheckedGroups) := rfl
  rw [hrun, bind_eq_error] at he
  obtain he | ⟨_, _, he⟩ := he
  · obtain ⟨g, hmem, he⟩ := exists_of_forM_error he
    exact h.misaligned hmem he
  · cases he

/-! ### MLAG pairs -/

theorem needed_eq_error {α : Type} {s : SwitchRecord} {peer field : String} {o : Option α} {e : ConfigError}
    (h : needed s peer field o = .error e) : e = .incompleteMlagLink s.label peer field := by
  cases o <;> cases h
  rfl

theorem linkPrefix_eq_error {address : IpAddress} {length : Nat} {e : ConfigError}
    (h : linkPrefix address length = .error e) : ∃ v, e = .invalidAddress v := by
  unfold linkPrefix at h
  cases hp : IpPrefix.ofAddress address length with
  | ok p =>
    rw [hp] at h
    cases h
  | error v =>
    rw [hp] at h
    cases h
    exact ⟨v, rfl⟩

/-- What can be wrong with the inter-peer link of a switch to its peer. -/
theorem fault_iplLink {s : SwitchRecord} (hs : s ∈ c.switches) {peer : String} (hpeer : s.mlagPeer = some peer)
    {e : ConfigError} (h : iplLink s peer = .error e) : c.Fault e := by
  have hfield {α : Type} {field : String} {o : Option α} (hfield : field ∈ ["vlan", "ports", "ip", "prefix"])
      (h : needed s peer field o = .error e) : c.Fault e := by
    rw [needed_eq_error h]
    exact .incompleteLink hs hpeer hfield
  unfold iplLink at h
  cases hl : s.links.find? (·.target == peer) with
  | none =>
    rw [hl] at h
    cases h
    exact .missingLink hs hpeer fun l hl' => by simpa using List.find?_eq_none.1 hl l hl'
  | some l =>
    rw [hl] at h
    obtain h | ⟨vlan, -, h⟩ := bind_eq_error.1 h
    · exact hfield (by simp) h
    obtain h | ⟨ports, -, h⟩ := bind_eq_error.1 h
    · exact hfield (by simp) h
    obtain h | ⟨ip, -, h⟩ := bind_eq_error.1 h
    · exact hfield (by simp) h
    obtain h | ⟨length, -, h⟩ := bind_eq_error.1 h
    · exact hfield (by simp) h
    obtain h | ⟨cidr, -, h⟩ := bind_eq_error.1 h
    · obtain ⟨v, rfl⟩ := linkPrefix_eq_error h
      exact .address v
    · cases h

theorem fault_mlagVip {address : Option IpAddress} {e : ConfigError} (h : c.mlagVip address = .error e) :
    c.Fault e := by
  cases address with
  | none => cases h
  | some a =>
    obtain h | ⟨n, -, h⟩ := bind_eq_error.1 h
    · unfold mgmtLength at h
      split at h
      · cases h
      · next hnone =>
        cases h
        exact .mgmtNetwork hnone
    obtain h | ⟨p, -, h⟩ := bind_eq_error.1 h
    · obtain ⟨v, rfl⟩ := linkPrefix_eq_error h
      exact .address v
    · cases h

theorem Checked.fault_mlagPairOf (h : c.Checked) {s : SwitchRecord} (hs : s ∈ c.switches) {e : ConfigError}
    (he : c.mlagPairOf s = .error e) : c.Fault e := by
  unfold mlagPairOf at he
  cases hlabel : s.mlagPeer with
  | none =>
    rw [hlabel] at he
    cases he
  | some label =>
    rw [hlabel] at he
    dsimp only at he
    split at he
    · cases he
    · -- the peer is a data switch, and names the switch as its own peer
      obtain ⟨peer, hpeer, hswitch, -, hback, -⟩ := h.peer hs hlabel
      rw [hswitch] at he
      obtain he | ⟨own, -, he⟩ := bind_eq_error.1 he
      · exact fault_iplLink hs hlabel he
      obtain he | ⟨other, -, he⟩ := bind_eq_error.1 he
      · exact fault_iplLink hpeer hback he
      obtain he | ⟨vip, -, he⟩ := bind_eq_error.1 he
      · exact fault_mlagVip he
      · cases he

/-- The views of a definition that passes its checks can be derived, unless it has one of six faults. Among these is
no reference to a switch or an interface that does not exist, and no port channel over more than two switches. Port
groups are misaligned only if slaves of a bond are wired, by templates with one label, to both switches of an MLAG
pair, with different numbers of port groups; the fault names the master of the pair and the other member. -/
theorem topology_or_fault (hcheck : c.check = .ok ()) :
    (∃ t, c.topology = .ok t) ∨ ∃ e, c.topology = .error e ∧ c.Fault e := by
  have h := checked_of_check hcheck
  cases ht : c.topology with
  | ok t => exact .inl ⟨t, rfl⟩
  | error e =>
    refine .inr ⟨e, rfl, ?_⟩
    obtain he | ⟨_, -, he⟩ := bind_eq_error.1 ht
    · exact fault_portVlans he
    obtain he | ⟨_, -, he⟩ := bind_eq_error.1 he
    · exact h.fault_channelGroups he
    obtain he | ⟨_, -, he⟩ := bind_eq_error.1 he
    · obtain he | ⟨_, -, he⟩ := bind_eq_error.1 he
      · obtain ⟨s, hs, he⟩ := exists_of_mapM_error he
        exact h.fault_mlagPairOf hs he
      · cases he
    · cases he

/-- A pair whose master has two ports of a bond, and the peer one. -/
def unevenPair : Cluster :=
  bare.withSwitch "data_1"
    |>.withSwitch "data_2"
    |>.withMlagPair "data_1" ⟨[29, 30], 4000, "10.0.0.1", 30, none⟩ "data_2" ⟨[29, 30], 4000, "10.0.0.2", 30, none⟩
    |>.withInterface (.bond "bond0")
    |>.withInterface (.bondSlave "eth10" "bond0")
    |>.withInterface (.bondSlave "eth11" "bond0")
    |>.withTemplate "compute" [⟨"data_1", "eth10", [7, 8]⟩, ⟨"data_2", "eth11", [3]⟩]
    |>.withTemplateInterface "compute" "bond0"

theorem topology_or_fault_unevenPair :
    unevenPair.check = .ok () ∧
      unevenPair.topology = .error (.misalignedGroups "bond0" "compute" "data_1" "data_2") ∧
      unevenPair.Fault (.misalignedGroups "bond0" "compute" "data_1" "data_2") := by
  have hcheck : unevenPair.check = .ok () := rfl
  have herror : unevenPair.topology = .error (.misalignedGroups "bond0" "compute" "data_1" "data_2") := rfl
  obtain ⟨t, ht⟩ | ⟨e, he, hfault⟩ := topology_or_fault hcheck
  · rw [herror] at ht
    cases ht
  · rw [herror] at he
    obtain rfl := Except.error.inj he
    exact ⟨hcheck, herror, hfault⟩

end SwitchFabric.Cluster
