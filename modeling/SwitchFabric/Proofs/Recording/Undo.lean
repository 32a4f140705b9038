import SwitchFabric.Cluster.Builder
import SwitchFabric.Proofs.Recording.Fresh
import SwitchFabric.Proofs.Switch.State

/-!
# Deconfiguring undoes configuring

Whatever an action of configuring puts into a switch, some action of deconfiguring takes out again. For VLANs and
MTUs and for LAGs this is seen from the steps alone. MLAG port channels and MLAG itself are taken back only on
switches that have MLAG at that point: configuring leaves MLAG on every member of a pair, and a member of a group
with two members is a member of a pair (`Paired`, `Checked.paired`).

* `exists_release`: every cell that configuring takes is released by deconfiguring;
* `replay_undone`: so the switches end as they started;
* `deconfigure_undoes_configure`: both passes over a checked definition, on switches that record their calls.
-/

namespace SwitchFabric

open Recording (mlagReplay)

/-! ## Calls that are sure to be made -/

namespace Pass

/-- A plain action is done. -/
theorem mem_calls_of_act {ts : List Step} {switch : String} {a : Action} (h : .act switch a ∈ ts)
    (m : String → Bool) : ⟨switch, .act a⟩ ∈ (plan ts).calls m := by
  obtain ⟨before, after, rfl⟩ := List.append_of_mem h
  exact mem_calls_iff.2 ⟨before, _, after, rfl, List.mem_cons_self⟩

/-- What is to be done on a switch with MLAG is done if the switch has MLAG, and no step takes it down. -/
theorem mem_calls_of_whenMlag {ts : List Step} {switch : String} {as : List Action} {a : Action}
    (h : .whenMlag switch true as ∈ ts) (hts : ∀ t ∈ ts, t.Quiet) {m : String → Bool} (hm : m switch = true)
    (ha : a ∈ as) : ⟨switch, .act a⟩ ∈ (plan ts).calls m := by
  obtain ⟨before, after, rfl⟩ := List.append_of_mem h
  refine mem_calls_iff.2 ⟨before, _, after, rfl, ?_⟩
  have hm' := mlag_of_quiet (fun t ht => hts t (List.mem_append_left _ ht)) hm
  rw [Step.calls, if_pos hm']
  exact List.mem_cons_of_mem _ (List.mem_map_of_mem ha)

end Pass

namespace Topology

variable {t : Topology}

/-- MLAG is taken down on a member that has it, if the operator consents. -/
theorem mem_calls_teardown {labels : List String} {label : String} (h : label ∈ labels) {m : String → Bool}
    (hm : m label = true) :
    ⟨label, .act .deconfigureMlag⟩ ∈ (Pass.plan (labels.map teardownStep)).calls m := by
  induction labels generalizing m with
  | nil => cases h
  | cons l labels ih =>
    rw [List.map_cons, Pass.calls_cons, List.mem_append]
    by_cases hl : label = l
    · subst hl
      left
      rw [teardownStep, Step.calls, if_pos hm]
      simp
    · right
      refine ih ((List.mem_cons.1 h).resolve_left hl) ?_
      refine Recording.mlagReplay_of_true hm fun hc => hl ?_
      exact (Step.mem_actions_of_mem_calls hc).1

/-- The members of channel groups with two members are members of MLAG pairs. -/
def Paired (t : Topology) : Prop :=
  ∀ g ∈ t.channelGroups, g.isMlag = true → ∀ switch ∈ g.members.keys, switch ∈ t.memberLabels

/-! ## What is taken is released -/

open SwitchState (taken released)

/-- The cells that are taken for a member of a channel group: one port channel for each of its groups. -/
theorem taken_configureMember {g : ChannelGroup} {switch : String} {groups : List PortGroup} {a : Action}
    (h : a ∈ t.configureMember g switch groups) {c : SwitchState.Cell} (hc : c ∈ taken a) :
    g.isMlag = true ∧
        (∃ ports i, (ports, i) ∈ groups.zipIdx ∧ c = .mlagInterface (mlagChannelOf g i ports)) ∨
      g.isMlag = false ∧ ∃ ports ∈ groups, c = .lag ports.channel := by
  rcases mem_configureMember h with ⟨hg, ports, i, hm, ha⟩ | ⟨hg, ports, hm, ha⟩
  · refine .inl ⟨hg, ports, i, hm, ?_⟩
    rcases mem_configureMlagChannel.1 ha with rfl | rfl | ⟨-, rfl⟩ | ⟨mtu, -, rfl⟩ | ⟨port, -, rfl⟩
    · cases hc
    all_goals exact List.mem_singleton.1 hc
  · refine .inr ⟨hg, ports, hm, ?_⟩
    rcases mem_configureLagChannel.1 ha with rfl | rfl | ⟨-, rfl⟩ | ⟨mtu, -, rfl⟩ | rfl
    · cases hc
    all_goals exact List.mem_singleton.1 hc

/-- Port channels are removed from the member of a group that they were made for. -/
theorem mem_deconfigureChannels_of_mem {g : ChannelGroup} (hg : g ∈ t.channelGroups) {switch : String}
    {groups : List PortGroup} (hm : (switch, groups) ∈ g.members.entries) :
    (g.isMlag = true → .whenMlag switch true
        (groups.zipIdx.map fun (ports, i) => .removeMlagInterface (mlagChannelOf g i ports)) ∈
          t.deconfigureChannels) ∧
      (g.isMlag = false → ∀ ports ∈ groups,
        .act switch (.removeLagInterface ports.channel) ∈ t.deconfigureChannels) := by
  have hin {u : Step} (hu : u ∈ removeChannels g switch groups) : u ∈ t.deconfigureChannels :=
    List.mem_flatMap.2 ⟨g, hg, List.mem_flatMap.2 ⟨_, hm, hu⟩⟩
  constructor
  · intro hmlag
    refine hin ?_
    rw [removeChannels, if_pos hmlag]
    exact List.mem_cons_self
  · intro hmlag ports hp
    refine hin ?_
    rw [removeChannels, hmlag, if_neg Bool.false_ne_true]
    exact List.mem_map.2 ⟨ports, hp, rfl⟩

/-- Deconfiguring has a step that releases a cell on a switch: a plain action, or one that is done on members of
pairs as long as they have MLAG. -/
inductive Releases (t : Topology) (switch : String) (c : SwitchState.Cell) : Prop where
  | act (b : Action) : .act switch b ∈ t.deconfigure → c ∈ released b → Releases t switch c
  | channel (as : List Action) (b : Action) : .whenMlag switch true as ∈ t.deconfigureChannels →
    switch ∈ t.memberLabels → b ∈ as → c ∈ released b → Releases t switch c
  | mlag : switch ∈ t.memberLabels → c ∈ released .deconfigureMlag → Releases t switch c

/-- What a step releases is released, if the members of pairs have MLAG. -/
theorem Releases.exists_call {switch : String} {c : SwitchState.Cell} (h : t.Releases switch c)
    {m : String → Bool} (hm : ∀ label ∈ t.memberLabels, m label = true) :
    ∃ b, ⟨switch, .act b⟩ ∈ (Pass.plan t.deconfigure).calls m ∧ c ∈ released b := by
  cases h with
  | act b hb hc => exact ⟨b, Pass.mem_calls_of_act hb m, hc⟩
  | channel as b has hl hb hc =>
    refine ⟨b, ?_, hc⟩
    rw [deconfigure_eq, Pass.calls_append, List.mem_append]
    exact .inl (Pass.mem_calls_of_whenMlag has (fun u => quiet_deconfigureChannels) (hm switch hl) hb)
  | mlag hl hc =>
    refine ⟨.deconfigureMlag, ?_, hc⟩
    rw [deconfigure_eq, Pass.calls_append, Pass.calls_append, List.mem_append, List.mem_append]
    refine .inr (.inl (mem_calls_teardown hl ?_))
    exact Pass.mlag_of_quiet (fun u => quiet_deconfigureChannels) (hm switch hl)

variable {u : Step} {a : Action} {c : SwitchState.Cell}

theorem releases_configureVlans (hu : u ∈ t.configureVlans) (ha : a ∈ u.actions) (hc : c ∈ taken a) :
    t.Releases u.switch c := by
  obtain ⟨switch, ports, port, vlans, hm, hp, hu⟩ := mem_configureVlans hu
  have hback {b : Action} (hb : (∃ v ∈ vlans, Step.act switch b = .act switch (.removeVlansFromPort port [v])) ∨
      Step.act switch b = .act switch (.setSwitchportMode port .access) ∨
      ∃ v ∈ vlans, Step.act switch b = .act switch (.deleteVlan v)) : .act switch b ∈ t.deconfigure := by
    rw [deconfigure_eq]
    refine List.mem_append_right _ (List.mem_append_right _ (List.mem_append_left _ ?_))
    exact mem_deconfigureVlans.2 ⟨switch, ports, port, vlans, hm, hp, hb⟩
  rcases hu with ⟨v, hv, rfl⟩ | rfl | rfl
  · obtain rfl := List.mem_singleton.1 ha
    obtain rfl := List.mem_singleton.1 hc
    exact .act (.deleteVlan v) (hback (.inr (.inr ⟨v, hv, rfl⟩))) List.mem_cons_self
  · obtain rfl := List.mem_singleton.1 ha
    obtain rfl := List.mem_singleton.1 hc
    exact .act (.setSwitchportMode port .access) (hback (.inr (.inl rfl))) List.mem_cons_self
  · obtain rfl := List.mem_singleton.1 ha
    obtain ⟨v, hv, rfl⟩ := List.mem_map.1 hc
    exact .act (.removeVlansFromPort port [v]) (hback (.inl ⟨v, hv, rfl⟩)) List.mem_cons_self

theorem releases_configureMtus (hu : u ∈ t.configureMtus) (ha : a ∈ u.actions) (hc : c ∈ taken a) :
    t.Releases u.switch c := by
  obtain ⟨switch, mtus, mtu, ports, hm, hp, port, hport, rfl⟩ := mem_configureMtus hu
  obtain rfl := List.mem_singleton.1 ha
  have hback : .act switch (.setMtuForPort port .reset) ∈ t.deconfigure := by
    rw [deconfigure_eq]
    refine List.mem_append_right _ (List.mem_append_right _ (List.mem_append_right _ ?_))
    exact mem_deconfigureMtus.2 ⟨switch, mtus, mtu, ports, hm, hp, port, hport, rfl⟩
  refine .act _ hback ?_
  rw [taken] at hc
  split at hc
  · cases hc
  · rw [List.mem_singleton.1 hc]
    exact List.mem_cons_self

theorem releases_configureMlag (hu : u ∈ t.configureMlag) (ha : a ∈ u.actions) (hc : c ∈ taken a) :
    t.Releases u.switch c := by
  obtain ⟨p, hp, member, hmem, hu⟩ := mem_configureMlag hu
  have hl : member.switch ∈ t.memberLabels :=
    List.mem_flatMap.2 ⟨p, hp, List.mem_map.2 ⟨member, hmem, rfl⟩⟩
  rcases hu with rfl | rfl
  · obtain rfl := List.mem_singleton.1 ha
    exact .mlag hl hc
  · obtain rfl := List.mem_singleton.1 ha
    exact .mlag hl hc

theorem releases_configureChannels (hpaired : t.Paired) (hu : u ∈ t.configureChannels) (ha : a ∈ u.actions)
    (hc : c ∈ taken a) : t.Releases u.switch c := by
  obtain ⟨g, hg, switch, groups, hm, b, hb, rfl⟩ := mem_configureChannels hu
  obtain rfl := List.mem_singleton.1 ha
  obtain ⟨hremove, hremoveLag⟩ := mem_deconfigureChannels_of_mem hg hm
  rcases taken_configureMember hb hc with ⟨hisMlag, ports, i, hi, rfl⟩ | ⟨hisMlag, ports, hports, rfl⟩
  · have hl : switch ∈ t.memberLabels := hpaired g hg hisMlag switch (List.mem_map_of_mem hm)
    refine .channel _ (.removeMlagInterface (mlagChannelOf g i ports)) (hremove hisMlag) hl ?_ List.mem_cons_self
    exact List.mem_map.2 ⟨_, hi, rfl⟩
  · refine .act (.removeLagInterface ports.channel) ?_ List.mem_cons_self
    rw [deconfigure_eq]
    exact List.mem_append_left _ (hremoveLag hisMlag ports hports)

/-- Every cell that configuring takes on a switch is released there by deconfiguring. -/
theorem exists_release (hpaired : t.Paired) {m : String → Bool} {switch : String} {a : Action}
    (hcall : ⟨switch, .act a⟩ ∈ (Pass.plan t.configure).calls m) (hc : c ∈ taken a) :
    ∃ b, ⟨switch, .act b⟩ ∈
      (Pass.plan t.deconfigure).calls (mlagReplay m ((Pass.plan t.configure).calls m)) ∧ c ∈ released b := by
  obtain ⟨u, hu, rfl, ha⟩ := Pass.exists_step_of_mem_calls hcall
  have h : t.Releases u.switch c := by
    rw [configure, List.mem_append, List.mem_append, List.mem_append] at hu
    rcases hu with ((hu | hu) | hu) | hu
    · exact releases_configureVlans hu ha hc
    · exact releases_configureMtus hu ha hc
    · exact releases_configureMlag hu ha hc
    · exact releases_configureChannels hpaired hu ha hc
  exact h.exists_call fun label hl => mlag_of_configure hl m

/-- Deconfiguring takes nothing. -/
theorem taken_of_mem_deconfigure (hu : u ∈ t.deconfigure) (ha : a ∈ u.actions) : taken a = [] := by
  rw [deconfigure_eq, List.mem_append, List.mem_append, List.mem_append] at hu
  rcases hu with hu | hu | hu | hu
  · obtain ⟨g, -, switch, groups, -, hu⟩ := mem_deconfigureChannels hu
    obtain ⟨channels, rfl⟩ | ⟨channel, rfl⟩ := mem_removeChannels hu
    · obtain ⟨channel, -, rfl⟩ := List.mem_map.1 ha
      rfl
    · rw [List.mem_singleton.1 ha]
      rfl
  · obtain ⟨label, -, rfl⟩ := List.mem_map.1 hu
    rw [List.mem_singleton.1 ha]
    rfl
  · obtain ⟨switch, ports, port, vlans, -, -, ⟨v, -, rfl⟩ | rfl | ⟨v, -, rfl⟩⟩ := mem_deconfigureVlans.1 hu <;>
      · rw [List.mem_singleton.1 ha]
        rfl
  · obtain ⟨switch, mtus, mtu, ports, -, -, port, -, rfl⟩ := mem_deconfigureMtus.1 hu
    rw [List.mem_singleton.1 ha]
    rfl

theorem taken_deconfigure {m : String → Bool} {switch : String} {a : Action}
    (hcall : ⟨switch, .act a⟩ ∈ (Pass.plan t.deconfigure).calls m) : taken a = [] := by
  obtain ⟨u, hu, -, ha⟩ := Pass.exists_step_of_mem_calls hcall
  exact taken_of_mem_deconfigure hu ha

/-- The actions on a switch in both passes leave it as empty as it was before. -/
theorem replay_undone (hpaired : t.Paired) (m : String → Bool) (label : String) :
    let calls := (Pass.plan t.configure).calls m
    SwitchState.empty.replay (Recording.actionsOn label
      (calls ++ (Pass.plan t.deconfigure).calls (mlagReplay m calls))) = SwitchState.empty := by
  intro calls
  rw [Recording.actionsOn_append]
  refine SwitchState.replay_eq_empty (fun b hb => ?_) fun a ha c hc => ?_
  · exact taken_deconfigure (Recording.mem_actionsOn.1 hb)
  · obtain ⟨b, hb, hcb⟩ := exists_release hpaired (Recording.mem_actionsOn.1 ha) hc
    exact ⟨b, Recording.mem_actionsOn.2 hb, hcb⟩

end Topology

/-- In a checked definition a member of a group with two members is a member of a pair. -/
theorem Cluster.Checked.paired {c : Cluster} (h : c.Checked) {t : Topology} (ht : c.topology = .ok t) :
    t.Paired := by
  obtain ⟨-, -, hg, hp⟩ := Cluster.topology_eq_ok ht
  intro g hmem hmlag switch hswitch
  obtain ⟨p, hpmem, -, -, hkeys⟩ := h.exists_pair_of_isMlag hg hp hmem hmlag
  refine List.mem_flatMap.2 ⟨p, hpmem, ?_⟩
  rcases (hkeys switch).1 hswitch with rfl | rfl
  · exact List.mem_map_of_mem List.mem_cons_self
  · exact List.mem_map_of_mem (List.mem_cons_of_mem _ List.mem_cons_self)

namespace Recording

variable {π : Type} (o : Operator π)

/-- Deconfiguring undoes configuring. For a definition that passes its checks and has a topology, and plain
recording switches for all its data switches, configuring ends well, and so does deconfiguring if the operator
consents to everything; and then the calls that each switch has recorded leave it empty. -/
theorem deconfigure_undoes_configure {c : Cluster} (hcheck : c.check = .ok ()) {t : Topology}
    (ht : c.topology = .ok t) {switches : SortedMap String RecordingSwitch} (hfresh : Fresh c switches)
    (operator : π) :
    let configured := Pass.run fleet o t t.configure ⟨start switches, operator⟩
    let undone := Pass.run fleet o t t.deconfigure configured.2
    configured.1 = .ok () ∧
      (Agreed (Pass.events fleet o t t.deconfigure configured.2) →
        undone.1 = .ok () ∧ ∀ label,
          SwitchState.empty.replay (actionsOn label undone.2.fleet.log) = SwitchState.empty) := by
  intro configured undone
  have h := Cluster.checked_of_check hcheck
  obtain ⟨hok, hlog, hmlag, hsound, hcovered⟩ := hfresh.configure h ht o operator
  refine ⟨hok, fun hyes => ?_⟩
  obtain ⟨hok', hlog', -⟩ := pass_of_agreed o t t.deconfigure configured.2 hsound hcovered hyes
  refine ⟨hok', fun label => ?_⟩
  rw [hlog', hlog, hmlag]
  exact Topology.replay_undone (h.paired ht) _ label

/-- A bond that is split across an MLAG pair: the first member records a VLAN, an MTU, MLAG and a port channel
with their removal. -/
theorem deconfigure_undoes_configure_mlagPair :
    let t := Scenario.mlagPair.topology
    let switches := SortedMap.ofList [("data_1", .plain), ("data_2", .plain)]
    let configured := Pass.run fleet Script.operator t t.configure ⟨start switches, ⟨[true, true], []⟩⟩
    let undone := Pass.run fleet Script.operator t t.deconfigure configured.2
    undone.1 = .ok () ∧ (actionsOn "data_1" undone.2.fleet.log).length = 29 ∧
      SwitchState.empty.replay (actionsOn "data_1" undone.2.fleet.log) = SwitchState.empty := by
  intro t switches configured undone
  have hfresh : Fresh Scenario.mlagPair.cluster switches := ⟨by decide +kernel, by decide +kernel⟩
  obtain ⟨-, h⟩ := deconfigure_undoes_configure Script.operator (c := Scenario.mlagPair.cluster) rfl
    (Scenario.topology_cluster .mlagPair) hfresh ⟨[true, true], []⟩
  obtain ⟨hok, hempty⟩ := h (by decide +kernel)
  refine ⟨hok, ?_, ?_⟩
  · decide +kernel
  · dsimp only [undone, configured, t]
    exact hempty "data_1"

end Recording

end SwitchFabric
