import SwitchFabric.Proofs.Cluster.Peers
import SwitchFabric.Topology.Aggregate

/-!
# Who is in the views of a checked definition

The views mention data switches only (`mem_labels_of_topology`). Every member of a channel group has the group's
master (`masterOf_of_mem_group`), so that a group with two members consists of two peers, and the pair of its
master has the same members (`exists_pair_of_isMlag`).
-/

namespace SwitchFabric

/-- The switches of a topology are those that some view mentions. -/
theorem Topology.mem_switches {t : Topology} {label : String} :
    label ∈ t.switches ↔ label ∈ t.portVlans.keys ++ t.mtuPorts.keys ++
      t.channelGroups.flatMap (·.members.keys) ++ t.mlagPairs.flatMap fun p => p.members.map (·.switch) := by
  rw [switches, SortedMap.mem_keys_ofList, List.map_map]
  show label ∈ List.map id _ ↔ _
  rw [List.map_id]

namespace Cluster

variable {c : Cluster}

/-! ## Maps of lists -/

theorem get?_extended₂ {ι κ α : Type} [OrderedKey ι] [DecidableEq ι] [OrderedKey κ] [DecidableEq κ]
    (j j' : ι) (k : κ) (items : List α) (m : SortedMap ι (SortedMap κ (List α))) :
    (extended₂ j k items m).get? j' =
      if j' = j then some (extended k items ((m.get? j).getD .empty)) else m.get? j' := by
  rw [extended₂, SortedMap.get?_update]

theorem mem_keys_extended {κ α : Type} [OrderedKey κ] [DecidableEq κ] {k k' : κ} {items : List α}
    {m : SortedMap κ (List α)} : k' ∈ (extended k items m).keys ↔ k' = k ∨ k' ∈ m.keys :=
  SortedMap.mem_keys_update

theorem mem_keys_extended₂ {ι κ α : Type} [OrderedKey ι] [DecidableEq ι] [OrderedKey κ] [DecidableEq κ]
    {j j' : ι} {k : κ} {items : List α} {m : SortedMap ι (SortedMap κ (List α))} :
    j' ∈ (extended₂ j k items m).keys ↔ j' = j ∨ j' ∈ m.keys :=
  SortedMap.mem_keys_update

/-! ## VLANs and MTUs -/

/-- The switches that are keys of a map are data switches. -/
def KeysIn {ν : Type} (c : Cluster) (m : SortedMap String ν) : Prop := ∀ label ∈ m.keys, label ∈ c.labels

theorem keysIn_empty {ν : Type} : c.KeysIn (.empty : SortedMap String ν) := fun _ h => nomatch h

theorem KeysIn.extended₂ {κ α : Type} [OrderedKey κ] [DecidableEq κ] {k : κ} {items : List α}
    {m : SortedMap String (SortedMap κ (List α))} {switch : String} (h : c.KeysIn m)
    (hs : switch ∈ c.labels) : c.KeysIn (extended₂ switch k items m) := by
  intro label hl
  rcases mem_keys_extended₂.1 hl with rfl | hl
  · exact hs
  · exact h label hl

theorem Checked.keysIn_vlanPorts (h : c.Checked) {found : VlanPorts} (hf : c.vlanPorts = .ok found) :
    c.KeysIn found := by
  refine foldlM_keeps hf keysIn_empty fun m t m' ht hm h' => ?_
  refine foldlM_keeps h' hm fun m label m' _ hm h' => ?_
  unfold addVlan at h'
  cases hi : c.interface? label with
  | none =>
    rw [hi] at h'
    cases h'
    exact hm
  | some i =>
    rw [hi] at h'
    obtain ⟨d, -, h'⟩ := bind_eq_ok.1 h'
    cases d with
    | none =>
      cases h'
      exact hm
    | some d =>
      cases h'
      refine List.foldlRecOn _ _ hm fun m hm b hb => hm.extended₂ ?_
      exact h.binding_mem_labels ht (List.mem_filter.1 hb).1

theorem Checked.keysIn_portVlans (h : c.Checked) {vlans : PortVlans} (hv : c.portVlans = .ok vlans) :
    c.KeysIn vlans := by
  obtain ⟨found, hf, hv⟩ := bind_eq_ok.1 hv
  cases hv
  intro label hl
  rw [SortedMap.mem_keys_ofList, List.map_map] at hl
  exact h.keysIn_vlanPorts hf label hl

theorem Checked.keysIn_mtuPorts (h : c.Checked) : c.KeysIn c.mtuPorts := by
  refine List.foldlRecOn _ _ keysIn_empty fun m hm b hb => ?_
  obtain ⟨t, ht, hb⟩ := List.mem_flatMap.1 hb
  split
  · exact hm.extended₂ (h.binding_mem_labels ht hb)
  · exact hm

/-! ## Channel groups -/

/-- The switches of each group are data switches that have the group's master. -/
def Filed (c : Cluster) (grouped : Grouped) : Prop :=
  ∀ key members, grouped.get? key = some members → ∀ switch ∈ members.keys,
    switch ∈ c.labels ∧ key.2.2 = c.masterOf switch (c.mlagPeer switch)

theorem Filed.extended₂ {grouped : Grouped} (h : c.Filed grouped) {bond template switch : String}
    {groups : List PortGroup} (hs : switch ∈ c.labels) :
    c.Filed (extended₂ (bond, template, c.masterOf switch (c.mlagPeer switch)) switch groups grouped) := by
  intro key members hm switch' hs'
  rw [get?_extended₂] at hm
  split at hm
  · next hkey =>
    cases hm
    rcases mem_keys_extended.1 hs' with rfl | hs'
    · exact ⟨hs, by rw [hkey]⟩
    · cases hg : grouped.get? (bond, template, c.masterOf switch (c.mlagPeer switch)) with
      | none =>
        rw [hg] at hs'
        cases hs'
      | some members =>
        rw [hg] at hs'
        rw [hkey]
        exact h _ members hg switch' hs'
  · exact h key members hm switch' hs'

theorem Checked.keysIn_slavePorts (h : c.Checked) {t : NodeTemplate} (ht : t ∈ c.templates)
    (slaves : List String) : c.KeysIn (slavePorts slaves t) := by
  refine List.foldlRecOn _ _ keysIn_empty fun m hm b hb label hl => ?_
  rcases mem_keys_extended.1 hl with rfl | hl
  · exact h.binding_mem_labels ht (List.mem_filter.1 hb).1
  · exact hm label hl

theorem Checked.filed_groupBond (h : c.Checked) {t : NodeTemplate} (ht : t ∈ c.templates) {grouped : Grouped}
    (hg : c.Filed grouped) (bond : String) (slaves : List String) :
    c.Filed (c.groupBond bond slaves grouped t) := by
  unfold groupBond
  split
  · refine List.foldlRecOn _ _ hg fun grouped hg e he => hg.extended₂ ?_
    exact h.keysIn_slavePorts ht slaves _ (List.mem_map_of_mem he)
  · exact hg

/-- The port channels of all bonds, as they are filed. -/
def grouped (c : Cluster) : Grouped :=
  c.bondSlaves.entries.foldl (fun grouped e => c.templates.foldl (c.groupBond e.1 e.2) grouped) .empty

/-- The channel groups before their check. -/
def uncheckedGroups (c : Cluster) : List ChannelGroup :=
  c.grouped.entries.map fun e => ⟨e.1.1, e.1.2.1, e.1.2.2, e.2⟩

theorem channelGroups_eq_ok {groups : List ChannelGroup} :
    c.channelGroups = .ok groups ↔ c.uncheckedGroups.forM checkGroup = .ok () ∧ c.uncheckedGroups = groups := by
  have hrun : c.channelGroups = (c.uncheckedGroups.forM checkGroup >>= fun _ => pure c.uncheckedGroups) := rfl
  rw [hrun, bind_eq_ok]
  constructor
  · rintro ⟨⟨⟩, hcheck, hg⟩
    exact ⟨hcheck, Except.ok.inj hg⟩
  · rintro ⟨hcheck, rfl⟩
    exact ⟨(), hcheck, rfl⟩

theorem mem_uncheckedGroups {g : ChannelGroup} :
    g ∈ c.uncheckedGroups ↔ c.grouped.get? (g.bond, g.template, g.master) = some g.members := by
  rw [uncheckedGroups, List.mem_map, ← SortedMap.mem_entries_iff]
  constructor
  · rintro ⟨e, he, rfl⟩
    exact he
  · exact fun he => ⟨_, he, rfl⟩

theorem Checked.filed_grouped (h : c.Checked) : c.Filed c.grouped := by
  refine List.foldlRecOn _ _ (fun _ _ hm => by cases hm) fun grouped hg e _ => ?_
  exact List.foldlRecOn _ _ hg fun grouped hg t ht => h.filed_groupBond ht hg e.1 e.2

/-- The members of a group are data switches that have the group's master. -/
theorem Checked.member_uncheckedGroup (h : c.Checked) {g : ChannelGroup} (hmem : g ∈ c.uncheckedGroups) :
    ∀ switch ∈ g.members.keys, switch ∈ c.labels ∧ g.master = c.masterOf switch (c.mlagPeer switch) :=
  h.filed_grouped _ _ (mem_uncheckedGroups.1 hmem)

/-- Every channel group has passed its check. -/
theorem checkGroup_of_mem {groups : List ChannelGroup} (hg : c.channelGroups = .ok groups) {g : ChannelGroup}
    (hmem : g ∈ groups) : checkGroup g = .ok () := by
  obtain ⟨hcheck, rfl⟩ := channelGroups_eq_ok.1 hg
  exact forM_ok_iff.1 hcheck g hmem

/-- What is known of each channel group. -/
theorem Checked.channelGroup (h : c.Checked) {groups : List ChannelGroup} (hg : c.channelGroups = .ok groups)
    {g : ChannelGroup} (hmem : g ∈ groups) :
    checkGroup g = .ok () ∧ ∀ switch ∈ g.members.keys,
      switch ∈ c.labels ∧ g.master = c.masterOf switch (c.mlagPeer switch) := by
  refine ⟨checkGroup_of_mem hg hmem, h.member_uncheckedGroup ?_⟩
  rwa [(channelGroups_eq_ok.1 hg).2]

/-! ## MLAG pairs -/

/-- A switch without a peer, or with one that is its master, has no pair. The pair of a master consists of both
sides with their links to each other. -/
theorem mlagPairOf_cases {s : SwitchRecord} {r : Option MlagPair} (h : c.mlagPairOf s = .ok r) :
    (r = none ∧ ∀ label, s.mlagPeer = some label → c.masterOf s.label (some label) ≠ s.label) ∨
    ∃ label peer own other vip, s.mlagPeer = some label ∧ c.masterOf s.label (some label) = s.label ∧
      c.switch? label = some peer ∧ iplLink s label = .ok own ∧ iplLink peer s.label = .ok other ∧
      c.mlagVip other.vip = .ok vip ∧
      r = some ⟨⟨s.label, own.vlan, none, own.ports, own.cidr, other.cidr.address⟩,
        ⟨peer.label, other.vlan, vip, other.ports, other.cidr, own.cidr.address⟩⟩ := by
  unfold mlagPairOf at h
  cases hl : s.mlagPeer with
  | none =>
    rw [hl] at h
    cases h
    exact .inl ⟨rfl, nofun⟩
  | some label =>
    rw [hl] at h
    dsimp only at h
    by_cases hm : c.masterOf s.label (some label) = s.label
    · rw [if_neg (by simpa using hm)] at h
      cases hp : c.switch? label with
      | none =>
        rw [hp] at h
        cases h
      | some peer =>
        rw [hp] at h
        obtain ⟨own, hown, h⟩ := bind_eq_ok.1 h
        obtain ⟨other, hother, h⟩ := bind_eq_ok.1 h
        obtain ⟨vip, hvip, h⟩ := bind_eq_ok.1 h
        cases h
        exact .inr ⟨label, peer, own, other, vip, rfl, hm, hp, hown, hother, hvip, rfl⟩
    · rw [if_pos (by simpa using hm)] at h
      cases h
      refine .inl ⟨rfl, fun label' hl' => ?_⟩
      cases hl'
      exact hm

theorem master_switch_of_mlagPairOf {s : SwitchRecord} {p : MlagPair} (h : c.mlagPairOf s = .ok (some p)) :
    p.master.switch = s.label := by
  obtain ⟨hnone, -⟩ | ⟨_, _, _, _, _, -, -, -, -, -, -, hp⟩ := mlagPairOf_cases h
  · cases hnone
  · cases hp
    rfl

theorem mem_mlagPairs {pairs : List MlagPair} (h : c.mlagPairs = .ok pairs) {p : MlagPair} :
    p ∈ pairs ↔ ∃ s ∈ c.switches, c.mlagPairOf s = .ok (some p) := by
  obtain ⟨found, hfound, h⟩ := bind_eq_ok.1 h
  cases h
  rw [List.mem_filterMap]
  constructor
  · rintro ⟨r, hr, hp⟩
    cases hp
    exact exists_of_mem_forall₂ (forall₂_of_mapM hfound) hr
  · rintro ⟨s, hs, hp⟩
    obtain ⟨r, hr, hr'⟩ := exists_mem_of_forall₂ (forall₂_of_mapM hfound) hs
    rw [hp] at hr'
    cases hr'
    exact ⟨some p, hr, rfl⟩

/-- The members of a pair are data switches that name each other; the first is the master of both. -/
theorem Checked.mem_mlagPairs (h : c.Checked) {pairs : List MlagPair} (hp : c.mlagPairs = .ok pairs)
    {p : MlagPair} (hmem : p ∈ pairs) :
    p.master.switch ∈ c.labels ∧ p.peer.switch ∈ c.labels ∧
      c.mlagPeer p.master.switch = some p.peer.switch ∧
      c.masterOf p.master.switch (some p.peer.switch) = p.master.switch := by
  obtain ⟨s, hs, hpair⟩ := (Cluster.mem_mlagPairs hp).1 hmem
  obtain ⟨hnone, -⟩ | ⟨label, peer, own, other, vip, hpeer, hmaster, hswitch, -, -, -, heq⟩ :=
    mlagPairOf_cases hpair
  · cases hnone
  cases heq
  obtain ⟨hpmem, rfl⟩ := switch?_eq_some hswitch
  refine ⟨List.mem_map_of_mem hs, List.mem_map_of_mem hpmem, ?_, hmaster⟩
  exact mlagPeer_eq_some.2 ⟨s, h.switch?_of_mem hs, hpeer⟩

/-- The master of a pair is the master of both members. -/
theorem Checked.masterOf_member (h : c.Checked) {pairs : List MlagPair} (hp : c.mlagPairs = .ok pairs)
    {p : MlagPair} (hmem : p ∈ pairs) {m : MlagMember} (hm : m ∈ p.members) :
    c.masterOf m.switch (c.mlagPeer m.switch) = p.master.switch := by
  obtain ⟨-, -, hpeer, hmaster⟩ := h.mem_mlagPairs hp hmem
  rcases List.mem_cons.1 hm with rfl | hm
  · rw [hpeer, hmaster]
  · rw [List.mem_singleton.1 hm, h.mlagPeer_symm hpeer, ← h.masterOf_comm hpeer, hmaster]

/-- A switch is a member of one pair. -/
theorem Checked.pair_unique (h : c.Checked) {pairs : List MlagPair} (hp : c.mlagPairs = .ok pairs)
    {p p' : MlagPair} (hmem : p ∈ pairs) (hmem' : p' ∈ pairs) {m m' : MlagMember} (hm : m ∈ p.members)
    (hm' : m' ∈ p'.members) (hs : m.switch = m'.switch) : p = p' := by
  have hmaster : p.master.switch = p'.master.switch := by
    rw [← h.masterOf_member hp hmem hm, ← h.masterOf_member hp hmem' hm', hs]
  obtain ⟨s, hsmem, hpair⟩ := (Cluster.mem_mlagPairs hp).1 hmem
  obtain ⟨s', hsmem', hpair'⟩ := (Cluster.mem_mlagPairs hp).1 hmem'
  rw [master_switch_of_mlagPairOf hpair, master_switch_of_mlagPairOf hpair'] at hmaster
  have hfind := h.switch?_of_mem hsmem
  rw [hmaster, h.switch?_of_mem hsmem'] at hfind
  obtain rfl := Option.some.inj hfind
  rw [hpair] at hpair'
  exact Option.some.inj (Except.ok.inj hpair')

/-- A switch that is the master of its peer is the master of a pair. -/
theorem exists_pair_of_master {pairs : List MlagPair} (hp : c.mlagPairs = .ok pairs) {label peer : String}
    (hpeer : c.mlagPeer label = some peer) (hm : c.masterOf label (some peer) = label) :
    ∃ p ∈ pairs, p.master.switch = label ∧ p.peer.switch = peer := by
  obtain ⟨s, hs, hlink⟩ := mlagPeer_eq_some.1 hpeer
  obtain ⟨hmem, rfl⟩ := switch?_eq_some hs
  obtain ⟨found, hfound, -⟩ := bind_eq_ok.1 hp
  obtain ⟨r, -, hr⟩ := exists_mem_of_forall₂ (forall₂_of_mapM hfound) hmem
  obtain ⟨-, hnot⟩ | ⟨label, q, own, other, vip, hlabel, -, hswitch, -, -, -, rfl⟩ := mlagPairOf_cases hr
  · exact absurd hm (hnot peer hlink)
  · rw [hlink] at hlabel
    cases hlabel
    exact ⟨_, (Cluster.mem_mlagPairs hp).2 ⟨s, hmem, hr⟩, rfl, (switch?_eq_some hswitch).2⟩

/-- Peers are the members of a pair. -/
theorem Checked.exists_pair (h : c.Checked) {pairs : List MlagPair} (hp : c.mlagPairs = .ok pairs)
    {label peer : String} (hpeer : c.mlagPeer label = some peer) :
    ∃ p ∈ pairs, p.master.switch = c.masterOf label (some peer) ∧
      (p.master.switch = label ∧ p.peer.switch = peer ∨ p.master.switch = peer ∧ p.peer.switch = label) := by
  rcases masterOf_or (c := c) label peer with hm | hm
  · obtain ⟨p, hmem, hmaster, hother⟩ := exists_pair_of_master hp hpeer hm
    exact ⟨p, hmem, hmaster.trans hm.symm, .inl ⟨hmaster, hother⟩⟩
  · have hm' := (h.masterOf_comm hpeer).symm.trans hm
    obtain ⟨p, hmem, hmaster, hother⟩ := exists_pair_of_master hp (h.mlagPeer_symm hpeer) hm'
    exact ⟨p, hmem, hmaster.trans hm.symm, .inr ⟨hmaster, hother⟩⟩

/-- A group with two members consists of the two members of a pair, whose master is the group's. -/
theorem Checked.exists_pair_of_isMlag (h : c.Checked) {groups : List ChannelGroup}
    (hg : c.channelGroups = .ok groups) {pairs : List MlagPair} (hp : c.mlagPairs = .ok pairs)
    {g : ChannelGroup} (hmem : g ∈ groups) (hmlag : g.isMlag = true) :
    ∃ p ∈ pairs, p.master.switch = g.master ∧ p.master.switch ≠ p.peer.switch ∧
      ∀ switch, switch ∈ g.members.keys ↔ switch = p.master.switch ∨ switch = p.peer.switch := by
  obtain ⟨-, hkeys⟩ := h.channelGroup hg hmem
  have hasc := g.members.ascending
  have hsize : g.members.entries.length = 2 := by simpa [ChannelGroup.isMlag, SortedMap.size] using hmlag
  rw [SortedMap.keys] at hkeys ⊢
  obtain ⟨⟨a, ga⟩, ⟨b, gb⟩, he⟩ := List.length_eq_two.1 hsize
  rw [he] at hkeys hasc ⊢
  have hne : a ≠ b := OrderedKey.ne_of_before (List.rel_of_pairwise_cons hasc List.mem_cons_self)
  have ha := (hkeys a (by simp)).2
  have hb := (hkeys b (by simp)).2
  obtain ⟨hpeer, -⟩ := h.peers_of_masterOf_eq hne (ha.symm.trans hb)
  obtain ⟨p, hpmem, hmaster, hor⟩ := h.exists_pair hp hpeer
  rw [hpeer] at ha
  refine ⟨p, hpmem, hmaster.trans ha.symm, ?_⟩
  rcases hor with ⟨h₁, h₂⟩ | ⟨h₁, h₂⟩
  · rw [h₁, h₂]
    exact ⟨hne, by simp⟩
  · rw [h₁, h₂]
    exact ⟨hne.symm, fun switch => by simp [or_comm]⟩

/-! ## Topologies -/

theorem topology_eq_ok {t : Topology} (h : c.topology = .ok t) :
    c.portVlans = .ok t.portVlans ∧ c.mtuPorts = t.mtuPorts ∧ c.channelGroups = .ok t.channelGroups ∧
      c.mlagPairs = .ok t.mlagPairs := by
  obtain ⟨vlans, hv, h⟩ := bind_eq_ok.1 h
  obtain ⟨groups, hg, h⟩ := bind_eq_ok.1 h
  obtain ⟨pairs, hp, h⟩ := bind_eq_ok.1 h
  cases h
  exact ⟨hv, rfl, hg, hp⟩

/-- The views mention data switches only. -/
theorem Checked.mem_labels_of_topology (h : c.Checked) {t : Topology} (ht : c.topology = .ok t) :
    ∀ label ∈ t.switches, label ∈ c.labels := by
  obtain ⟨hv, hm, hg, hp⟩ := topology_eq_ok ht
  intro label hl
  rw [Topology.mem_switches] at hl
  rcases List.mem_append.1 hl with hl | hl
  · rcases List.mem_append.1 hl with hl | hl
    · rcases List.mem_append.1 hl with hl | hl
      · exact h.keysIn_portVlans hv label hl
      · exact h.keysIn_mtuPorts label (hm ▸ hl)
    · obtain ⟨g, hmem, hl⟩ := List.mem_flatMap.1 hl
      exact ((h.channelGroup hg hmem).2 label hl).1
  · obtain ⟨p, hmem, hl⟩ := List.mem_flatMap.1 hl
    obtain ⟨hmaster, hpeer, -⟩ := h.mem_mlagPairs hp hmem
    obtain ⟨m, hm, rfl⟩ := List.mem_map.1 hl
    rcases List.mem_cons.1 hm with rfl | hm
    · exact hmaster
    · rw [List.mem_singleton.1 hm]
      exact hpeer

end Cluster

end SwitchFabric
