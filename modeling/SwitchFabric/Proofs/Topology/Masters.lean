import SwitchFabric.Proofs.Topology.Pairs

/-!
# One master, seen the same from everywhere

Peers elect the same master, whichever of them is asked (`Checked.election`). The channel groups and the MLAG pairs of
a topology are both filed by masters that were elected on their own, and agree for that reason: the members of a group
are its master and the master's peer (`Checked.member_of_group`), and the switches of one pair do not fall into two
groups of one bond and template (`Checked.groups_apart`). `one_master` puts this together.
-/

namespace SwitchFabric

/-- What a channel group is filed under. -/
def ChannelGroup.key (g : ChannelGroup) : String × String × String := (g.bond, g.template, g.master)

/-- Some switch of the pair is a member of the channel group. -/
def MlagPair.Joins (p : MlagPair) (g : ChannelGroup) : Prop :=
  ∃ switch ∈ g.members.keys, p.hasMember switch = true

namespace Cluster

variable {c : Cluster}

/-! ## The election -/

theorem Checked.isFlagged_label (h : c.Checked) {s : SwitchRecord} (hs : s ∈ c.switches) :
    c.isFlagged s.label = s.mlagMaster := by
  rw [isFlagged, h.switch?_of_mem hs]
  rfl

theorem masterOf_of_isFlagged {label : String} (hf : c.isFlagged label = true) (peer : String) :
    c.masterOf label (some peer) = label := by
  rw [masterOf, if_pos hf]

/-- A switch and its peer elect the same one of them, and the one that is flagged if one is. -/
theorem Checked.election (h : c.Checked) {s : SwitchRecord} (hs : s ∈ c.switches) {label : String}
    (hpeer : s.mlagPeer = some label) :
    ∃ p ∈ c.switches, p.label = label ∧
      c.masterOf s.label (some label) = c.masterOf label (c.mlagPeer label) ∧
      (c.masterOf s.label (some label) = s.label ∨ c.masterOf s.label (some label) = label) ∧
      (s.mlagMaster = true → c.masterOf s.label (some label) = s.label) ∧
      (p.mlagMaster = true → c.masterOf s.label (some label) = label) := by
  have hp : c.mlagPeer s.label = some label := mlagPeer_eq_some.2 ⟨s, h.switch?_of_mem hs, hpeer⟩
  obtain ⟨p, hmem, -, rfl, -, -⟩ := h.peer hs hpeer
  refine ⟨p, hmem, rfl, ?_, masterOf_or _ _, fun hflag => ?_, fun hflag => ?_⟩
  · rw [h.mlagPeer_symm hp]
    exact h.masterOf_comm hp
  · exact masterOf_of_isFlagged ((h.isFlagged_label hs).trans hflag) _
  · rw [h.masterOf_comm hp]
    exact masterOf_of_isFlagged ((h.isFlagged_label hmem).trans hflag) _

/-! ## Groups and pairs -/

/-- The groups stand in the order of what they are filed under. -/
theorem pairwise_key {groups : List ChannelGroup} (hg : c.channelGroups = .ok groups) :
    groups.Pairwise fun g g' => OrderedKey.before g.key g'.key = true := by
  obtain ⟨⟨⟩, -, hg⟩ := bind_eq_ok.1 hg
  cases hg
  exact List.pairwise_map.2 (SortedMap.ascending _)

/-- A member of a group is the group's master or the master's peer. -/
theorem Checked.member_of_group (h : c.Checked) {groups : List ChannelGroup} (hg : c.channelGroups = .ok groups)
    {g : ChannelGroup} (hmem : g ∈ groups) {switch : String} (hs : switch ∈ g.members.keys) :
    switch = g.master ∨ c.mlagPeer g.master = some switch := by
  have hmaster := ((h.channelGroup hg hmem).2 switch hs).2
  cases hp : c.mlagPeer switch with
  | none =>
    rw [hp, masterOf_none] at hmaster
    exact .inl hmaster.symm
  | some peer =>
    rw [hp] at hmaster
    rcases masterOf_or (c := c) switch peer with heq | heq
    · exact .inl (hmaster.trans heq).symm
    · rw [hmaster, heq]
      exact .inr (h.mlagPeer_symm hp)

/-- A group that has a switch of a pair is filed under the pair's master. -/
theorem Checked.master_of_joins (h : c.Checked) {groups : List ChannelGroup} (hg : c.channelGroups = .ok groups)
    {pairs : List MlagPair} (hp : c.mlagPairs = .ok pairs) {p : MlagPair} (hpair : p ∈ pairs) {g : ChannelGroup}
    (hmem : g ∈ groups) (hjoins : p.Joins g) : g.master = p.master.switch := by
  obtain ⟨switch, hs, hmember⟩ := hjoins
  obtain ⟨m, hm, hswitch⟩ := List.any_eq_true.1 hmember
  rw [((h.channelGroup hg hmem).2 switch hs).2, ← beq_iff_eq.1 hswitch]
  exact h.masterOf_member hp hpair hm

/-- Two groups of one bond and template do not both have switches of one pair. -/
theorem Checked.groups_apart (h : c.Checked) {groups : List ChannelGroup} (hg : c.channelGroups = .ok groups)
    {pairs : List MlagPair} (hp : c.mlagPairs = .ok pairs) :
    groups.Pairwise fun g g' => g.bond = g'.bond → g.template = g'.template →
      ∀ p ∈ pairs, ¬ (p.Joins g ∧ p.Joins g') := by
  refine (pairwise_key hg).imp_of_mem ?_
  rintro g g' hmem hmem' hbefore hbond htemplate p hpair ⟨hjoins, hjoins'⟩
  have hmaster : g.master = g'.master := by
    rw [h.master_of_joins hg hp hpair hmem hjoins, h.master_of_joins hg hp hpair hmem' hjoins']
  exact OrderedKey.ne_of_before hbefore (by rw [ChannelGroup.key, hbond, htemplate, hmaster]; rfl)

/-- One master, seen the same from everywhere. In a definition that passes its checks a switch and its peer elect the
same one of them, which is the one that is flagged if one is. In its topology the members of a channel group are the
group's master and the master's peer at most; a group with two members has exactly the switches of a pair, whose
master is the group's; and the switches of one pair are not spread over two groups of a bond and template. -/
theorem one_master (hcheck : c.check = .ok ()) :
    (∀ s ∈ c.switches, ∀ label, s.mlagPeer = some label → ∃ p ∈ c.switches, p.label = label ∧
      c.masterOf s.label (some label) = c.masterOf label (c.mlagPeer label) ∧
      (c.masterOf s.label (some label) = s.label ∨ c.masterOf s.label (some label) = label) ∧
      (s.mlagMaster = true → c.masterOf s.label (some label) = s.label) ∧
      (p.mlagMaster = true → c.masterOf s.label (some label) = label)) ∧
    ∀ t, c.topology = .ok t →
      (∀ g ∈ t.channelGroups, ∀ switch ∈ g.members.keys,
        switch = g.master ∨ c.mlagPeer g.master = some switch) ∧
      (∀ g ∈ t.channelGroups, g.isMlag = true → ∃ p ∈ t.mlagPairs,
        p.master.switch = g.master ∧ p.master.switch ≠ p.peer.switch ∧
        ∀ switch, switch ∈ g.members.keys ↔ p.hasMember switch = true) ∧
      t.channelGroups.Pairwise fun g g' => g.bond = g'.bond → g.template = g'.template →
        ∀ p ∈ t.mlagPairs, ¬ (p.Joins g ∧ p.Joins g') := by
  have h := checked_of_check hcheck
  refine ⟨fun s hs label hpeer => h.election hs hpeer, fun t ht => ?_⟩
  obtain ⟨-, -, hg, hp⟩ := topology_eq_ok ht
  refine ⟨fun g hmem switch hs => h.member_of_group hg hmem hs, fun g hmem hmlag => ?_, h.groups_apart hg hp⟩
  obtain ⟨p, hpair, hmaster, hne, hmembers⟩ := h.exists_pair_of_isMlag hg hp hmem hmlag
  refine ⟨p, hpair, hmaster, hne, fun switch => ?_⟩
  rw [hmembers, MlagPair.hasMember_iff, eq_comm (a := switch), eq_comm (a := switch)]

/-- The bond of the scenario has a port channel on both switches of the pair, whose first is flagged as master. -/
theorem one_master_mlagPair :
    let c := Scenario.mlagPair.cluster
    let t := Scenario.mlagPair.topology
    c.check = .ok () ∧ c.masterOf "data_2" (some "data_1") = "data_1" ∧
      ∃ g ∈ t.channelGroups, ∃ p ∈ t.mlagPairs, p.master.switch = g.master ∧ g.members.keys = ["data_1", "data_2"] ∧
        ∀ switch, switch ∈ g.members.keys ↔ p.hasMember switch = true := by
  intro c t
  have hcheck : c.check = .ok () := rfl
  obtain ⟨hswitches, htopology⟩ := one_master hcheck
  obtain ⟨-, hpairs, -⟩ := htopology t (Scenario.topology_cluster .mlagPair)
  have hmem := List.get_mem t.channelGroups ⟨0, by decide +kernel⟩
  obtain ⟨p, hp, hmaster, -, hmembers⟩ := hpairs _ hmem (by decide +kernel)
  have hs := List.get_mem c.switches ⟨1, by decide +kernel⟩
  obtain ⟨-, -, -, hsame, -⟩ := hswitches _ hs "data_1" (by decide +kernel)
  refine ⟨hcheck, hsame.trans (by decide +kernel), _, hmem, p, hp, hmaster, by decide +kernel, hmembers⟩

end Cluster

end SwitchFabric
