import Mathlib.Data.List.Flatten
import Mathlib.Data.List.Nodup
import SwitchFabric.Pass.Configure
import SwitchFabric.Proofs.Topology.Members

/-!
# The numbers of port channels

A LAG is numbered by its lowest port, and an MLAG port channel by the lowest port of the master's group. Where the
port groups of a switch have no port in common, its LAGs have different numbers (`nodup_lagChannels`); so have its
MLAG port channels, since they take their numbers, one by one, from groups of its master (`nodup_mlagChannels`).
-/

namespace SwitchFabric

theorem PortGroup.channel_mem (g : PortGroup) : g.channel ∈ g.ports := List.min_mem g.nonempty

/-- Groups without a common port have different numbers. -/
theorem PortGroup.nodup_channels {gs : List PortGroup} (h : (gs.flatMap (·.ports)).Nodup) :
    (gs.map channel).Nodup := by
  rw [List.nodup_flatMap] at h
  refine List.pairwise_map.2 (h.2.imp fun hdisjoint heq => ?_)
  exact hdisjoint (channel_mem _) (heq ▸ channel_mem _)

/-- What the entries at one key give is what its value gives. -/
theorem SortedMap.flatMap_entries {κ ν α : Type} [OrderedKey κ] [DecidableEq κ] (m : SortedMap κ ν) (k : κ)
    (f : ν → List α) :
    (m.entries.flatMap fun e => if e.1 = k then f e.2 else []) = ((m.get? k).map f).getD [] := by
  rw [get?]
  have hasc := m.ascending
  generalize m.entries = entries at hasc
  induction entries with
  | nil => rfl
  | cons e entries ih =>
    obtain ⟨hhead, htail⟩ := List.pairwise_cons.1 hasc
    rw [List.flatMap_cons, lookup]
    by_cases he : k = e.1
    · have hnone : (entries.flatMap fun e => if e.1 = k then f e.2 else []) = [] := by
        refine List.flatMap_eq_nil_iff.2 fun e' he' => if_neg fun hk => ?_
        exact OrderedKey.ne_of_before (hhead e' he') (he.symm.trans hk.symm)
      rw [hnone, if_pos he.symm, if_pos he]
      exact List.append_nil _
    · rw [if_neg he, if_neg (Ne.symm he), List.nil_append, ih htail]

namespace ChannelGroup

/-- The groups of a switch. -/
def groupsOf (g : ChannelGroup) (switch : String) : List PortGroup := (g.members.get? switch).getD []

theorem groupsOf_eq_nil {g : ChannelGroup} {switch : String} (h : switch ∉ g.members.keys) :
    g.groupsOf switch = [] := by
  rw [groupsOf]
  cases hg : g.members.get? switch with
  | none => rfl
  | some groups => exact absurd (SortedMap.mem_keys_iff.2 ⟨groups, hg⟩) h

/-- A group with two members has no switch but its master and another one. -/
theorem eq_of_ne_master {g : ChannelGroup} (hmlag : g.isMlag = true) (hmaster : g.master ∈ g.members.keys)
    {a b : String} (ha : a ∈ g.members.keys) (hb : b ∈ g.members.keys) (hna : a ≠ g.master)
    (hnb : b ≠ g.master) : a = b := by
  have hsize : g.members.keys.length = 2 := by
    rw [SortedMap.keys, List.length_map]
    simpa [isMlag, SortedMap.size] using hmlag
  obtain ⟨x, y, hkeys⟩ := List.length_eq_two.1 hsize
  rw [hkeys] at hmaster ha hb
  simp only [List.mem_cons, List.not_mem_nil, or_false] at hmaster ha hb
  rcases ha with rfl | rfl <;> rcases hb with rfl | rfl
  · rfl
  · rcases hmaster with h | h
    · exact absurd h.symm hna
    · exact absurd h.symm hnb
  · rcases hmaster with h | h
    · exact absurd h.symm hnb
    · exact absurd h.symm hna
  · rfl

/-- The members of a group that was checked have as many groups as the master. -/
theorem length_groupsOf {g : ChannelGroup} (hcheck : Cluster.checkGroup g = .ok ()) (hmlag : g.isMlag = true)
    (hmaster : g.master ∈ g.members.keys) {switch : String} (hs : switch ∈ g.members.keys) :
    (g.groupsOf switch).length = g.masterGroups.length := by
  by_cases heq : switch = g.master
  · rw [heq]
    rfl
  have hsize : g.members.size = 2 := by simpa [isMlag] using hmlag
  obtain ⟨own, hown⟩ := SortedMap.mem_keys_iff.1 hmaster
  -- the one entry that is not the master's is the switch's
  have hother : ∃ other, g.members.entries.find? (·.1 != g.master) = some (switch, other) ∧
      g.members.get? switch = some other := by
    cases hf : g.members.entries.find? (·.1 != g.master) with
    | none =>
      obtain ⟨e, he, rfl⟩ := List.mem_map.1 hs
      exact absurd (by simpa using List.find?_eq_none.1 hf e he) heq
    | some e =>
      have hne : e.1 ≠ g.master := by simpa using List.find?_some hf
      have hmem := List.mem_of_find?_eq_some hf
      obtain rfl := eq_of_ne_master hmlag hmaster (List.mem_map_of_mem hmem) hs hne heq
      exact ⟨e.2, rfl, SortedMap.mem_entries_iff.1 hmem⟩
  obtain ⟨other, hfind, hget⟩ := hother
  unfold Cluster.checkGroup at hcheck
  split at hcheck
  · omega
  · omega
  · rw [hown, hfind] at hcheck
    dsimp only at hcheck
    split at hcheck
    · next hlen =>
      rw [groupsOf, hget, masterGroups, hown]
      exact (beq_iff_eq.1 hlen).symm
    · cases hcheck
  · cases hcheck

/-- The MLAG port channels of a member take their numbers from the groups of the master, one by one. -/
theorem map_mlagChannelOf {g : ChannelGroup} {groups : List PortGroup}
    (hlength : groups.length = g.masterGroups.length) :
    (groups.zipIdx.map fun (ports, i) => Topology.mlagChannelOf g i ports) =
      g.masterGroups.map PortGroup.channel := by
  apply List.ext_getElem
  · rw [List.length_map, List.length_zipIdx, List.length_map, hlength]
  · intro i hi hi'
    have hm : i < g.masterGroups.length := by simpa using hi'
    rw [List.getElem_map, List.getElem_map, List.getElem_zipIdx]
    show ((g.masterGroups[0 + i]?).map PortGroup.channel).getD _ = _
    rw [Nat.zero_add, List.getElem?_eq_getElem hm, Option.map_some, Option.getD_some]

end ChannelGroup

namespace Topology

/-- The steps for port channels, member by member. -/
theorem configureChannels_eq (t : Topology) :
    t.configureChannels =
      (t.channelGroups.flatMap fun g => g.members.entries.map fun e => (g, e)).flatMap fun x =>
        (t.configureMember x.1 x.2.1 x.2.2).map (.act x.2.1) := by
  rw [configureChannels, List.flatMap_assoc]
  refine List.flatMap_congr fun g _ => ?_
  rw [List.flatMap_map]

/-- What is done on one switch is what is done for it in each channel group. -/
theorem flatMap_configureMember (t : Topology) (label : String) :
    ((t.channelGroups.flatMap fun g => g.members.entries.map fun e => (g, e)).flatMap fun x =>
        if x.2.1 = label then t.configureMember x.1 x.2.1 x.2.2 else []) =
      t.channelGroups.flatMap fun g => ((g.members.get? label).map (t.configureMember g label)).getD [] := by
  rw [List.flatMap_assoc]
  refine List.flatMap_congr fun g _ => ?_
  rw [List.flatMap_map, ← SortedMap.flatMap_entries]
  refine List.flatMap_congr fun e _ => ?_
  by_cases he : e.1 = label
  · rw [if_pos he, if_pos he, he]
  · rw [if_neg he, if_neg he]

/-- The port groups of a switch in all channel groups. -/
def portGroups (t : Topology) (switch : String) : List PortGroup :=
  t.channelGroups.flatMap (·.groupsOf switch)

/-- The port groups that are LAGs of a switch. -/
def lagGroups (t : Topology) (switch : String) : List PortGroup :=
  t.channelGroups.flatMap fun g => if g.isMlag then [] else g.groupsOf switch

/-- The numbers of a switch's MLAG port channels. -/
def mlagChannels (t : Topology) (switch : String) : List Nat :=
  t.channelGroups.flatMap fun g =>
    if g.isMlag then (g.groupsOf switch).zipIdx.map fun (ports, i) => mlagChannelOf g i ports else []

/-- No port of a switch comes twice among those of its port groups and of its inter-peer link. -/
def DistinctPorts (t : Topology) (switch : String) : Prop :=
  ((t.portGroups switch).flatMap (·.ports)).Nodup ∧
    ∀ p ∈ t.mlagPairs, ∀ m ∈ p.members, m.switch = switch →
      ((t.portGroups switch).flatMap (·.ports) ++ m.ports.ports).Nodup

instance (t : Topology) (switch : String) : Decidable (t.DistinctPorts switch) :=
  inferInstanceAs (Decidable (_ ∧ ∀ p ∈ t.mlagPairs, ∀ m ∈ p.members, m.switch = switch → _))

variable {t : Topology} {switch : String}

/-- A switch that the topology does not mention has no ports in it. -/
theorem distinctPorts_of_forall (h : ∀ switch ∈ t.switches, t.DistinctPorts switch) (switch : String) :
    t.DistinctPorts switch := by
  by_cases hs : switch ∈ t.switches
  · exact h switch hs
  rw [mem_switches, List.mem_append, List.mem_append, not_or, not_or] at hs
  obtain ⟨⟨-, hgroups⟩, hpairs⟩ := hs
  have hnil : t.portGroups switch = [] := by
    refine List.flatMap_eq_nil_iff.2 fun g hg => ChannelGroup.groupsOf_eq_nil fun hk => hgroups ?_
    exact List.mem_flatMap.2 ⟨g, hg, hk⟩
  constructor
  · rw [hnil]
    exact List.nodup_nil
  · rintro p hp m hm rfl
    exact absurd (List.mem_flatMap.2 ⟨p, hp, List.mem_map_of_mem hm⟩) hpairs

theorem lagGroups_sublist (t : Topology) (switch : String) :
    (t.lagGroups switch).Sublist (t.portGroups switch) := by
  refine List.Sublist.flatMap_right _ fun g _ => ?_
  split
  · exact List.nil_sublist _
  · exact List.Sublist.refl _

/-- The LAGs of a switch have different numbers. -/
theorem nodup_lagChannels (h : t.DistinctPorts switch) : ((t.lagGroups switch).map PortGroup.channel).Nodup := by
  refine PortGroup.nodup_channels (h.1.sublist ?_)
  exact (lagGroups_sublist t switch).flatMap _

/-- A LAG is not numbered like a port of the switch's inter-peer link. -/
theorem channel_notMem_ipl (h : t.DistinctPorts switch) {ports : PortGroup} (hp : ports ∈ t.lagGroups switch)
    {p : MlagPair} (hpair : p ∈ t.mlagPairs) {m : MlagMember} (hm : m ∈ p.members) (hs : m.switch = switch) :
    ports.channel ∉ m.ports.ports := by
  intro hipl
  have hnodup := h.2 p hpair m hm hs
  refine (List.nodup_append'.1 hnodup).2.2 ?_ hipl
  exact List.mem_flatMap.2 ⟨ports, (lagGroups_sublist t switch).subset hp, ports.channel_mem⟩

end Topology

/-- The MLAG port channels of a switch have different numbers. -/
theorem Cluster.Checked.nodup_mlagChannels {c : Cluster} (h : c.Checked) {t : Topology}
    (ht : c.topology = .ok t) (hports : ∀ switch, t.DistinctPorts switch) (switch : String) :
    (t.mlagChannels switch).Nodup := by
  obtain ⟨-, -, hg, hp⟩ := topology_eq_ok ht
  -- all groups with two members that have the switch have its master
  have hsub : (t.mlagChannels switch).Sublist
      ((t.portGroups (c.masterOf switch (c.mlagPeer switch))).map PortGroup.channel) := by
    rw [Topology.portGroups, List.map_flatMap]
    refine List.Sublist.flatMap_right _ fun g hmem => ?_
    cases hmlag : g.isMlag with
    | false => exact List.nil_sublist _
    | true =>
      rw [if_pos rfl]
      by_cases hs : switch ∈ g.members.keys
      · obtain ⟨hcheck, hkeys⟩ := h.channelGroup hg hmem
        obtain ⟨p, -, hmaster, -, hmembers⟩ := h.exists_pair_of_isMlag hg hp hmem hmlag
        have hown : g.master ∈ g.members.keys := (hmembers g.master).2 (.inl hmaster.symm)
        rw [ChannelGroup.map_mlagChannelOf (ChannelGroup.length_groupsOf hcheck hmlag hown hs),
          ← (hkeys switch hs).2]
        exact List.Sublist.refl _
      · rw [ChannelGroup.groupsOf_eq_nil hs]
        exact List.nil_sublist _
  exact (PortGroup.nodup_channels (hports _).1).sublist hsub

end SwitchFabric
