import SwitchFabric.Cluster.Builder
import SwitchFabric.Proofs.Pass.ChannelMtus
import SwitchFabric.Proofs.Pass.Completed
import SwitchFabric.Proofs.Recording.ChannelNumbers

/-!
# Both ends of an MLAG port channel

A group with two members has been checked to have its master among them, and as many port groups on one as on the other
(`ChannelGroup.Aligned`). So the numbers of its port channels are the master's at the same places, on both members
(`zip_channels`), and none is made up from local ports.

What a switch is given for MLAG port channels when a topology is configured follows group by group
(`Topology.filterMap_does_configure`), and what is removed when it is deconfigured, member by member
(`ChannelGroup.TakenBack`). `mlag_channels_aligned` puts this together for definitions that need not pass any other
check, and for any drivers.
-/

namespace SwitchFabric

/-- The port and the number of the MLAG port channel that the action binds it to. -/
def Action.mlagBinding? : Action → Option (Nat × Nat)
  | bindPortToMlagInterface port channel => some (port, channel)
  | _ => none

theorem Action.mlagBinding?_of_isChannel (a : Action) (h : a.isChannel = false) : a.mlagBinding? = none := by
  cases a <;> first | rfl | cases h

/-! ## The numbers of a group -/

namespace ChannelGroup

/-- The numbers of the port channels, if the group has two members. -/
def channels (g : ChannelGroup) : List Nat := g.masterGroups.map PortGroup.channel

/-- The master is a member, and the others have as many groups as the master. -/
structure Aligned (g : ChannelGroup) : Prop where
  master : g.master ∈ g.members.keys
  length {switch : String} : switch ∈ g.members.keys → (g.groupsOf switch).length = g.masterGroups.length

variable {g : ChannelGroup}

theorem aligned_of_check (hcheck : Cluster.checkGroup g = .ok ()) (hmlag : g.isMlag = true) : g.Aligned := by
  have hmaster : g.master ∈ g.members.keys := by
    have hsize : g.members.size = 2 := by simpa [isMlag] using hmlag
    cases hown : g.members.get? g.master with
    | some own => exact SortedMap.mem_keys_iff.2 ⟨own, hown⟩
    | none =>
      rw [Cluster.checkGroup, hsize] at hcheck
      dsimp only at hcheck
      rw [hown] at hcheck
      cases hcheck
  exact ⟨hmaster, fun hs => length_groupsOf hcheck hmlag hmaster hs⟩

theorem mlagChannel_of_lt {i : Nat} (hi : i < g.masterGroups.length) :
    g.mlagChannel i = some g.masterGroups[i].channel := by
  rw [mlagChannel, List.getElem?_eq_getElem hi, Option.map_some]

/-- Each group of a member with the number at its place. -/
theorem zip_channels {groups : List PortGroup} (hlength : groups.length = g.masterGroups.length) :
    groups.zip g.channels = groups.zipIdx.map fun (ports, i) => (ports, Topology.mlagChannelOf g i ports) := by
  have hchannels : g.channels = groups.zipIdx.map fun (ports, i) => Topology.mlagChannelOf g i ports :=
    (map_mlagChannelOf hlength).symm
  calc groups.zip g.channels
      = (groups.zipIdx.map Prod.fst).zip (groups.zipIdx.map fun (ports, i) => Topology.mlagChannelOf g i ports) := by
        rw [hchannels, List.zipIdx_map_fst]
    _ = groups.zipIdx.map fun (ports, i) => (ports, Topology.mlagChannelOf g i ports) := List.zip_map'

end ChannelGroup

namespace Topology

variable {t : Topology} {label : String}

/-- The groups with two members of which a switch is one. -/
def mlagGroupsOf (t : Topology) (switch : String) : List ChannelGroup :=
  t.channelGroups.filter fun g => g.isMlag && g.members.contains switch

/-- What is done on a switch for its MLAG port channels, and for nothing else. -/
theorem filterMap_does_configure {β : Type} {f : Action → Option β} {as : List Action} {F : PortGroup × Nat → List β}
    (hdoes : Pass.Does label t.configure as) (hgroups : ∀ g ∈ t.channelGroups, g.isMlag = true → g.Aligned)
    (hother : ∀ a : Action, a.isChannel = false → f a = none)
    (hlag : ∀ switch ports, (t.configureLagChannel switch ports).filterMap f = [])
    (hmlag : ∀ switch channel ports, (t.configureMlagChannel switch channel ports).filterMap f = F (ports, channel)) :
    as.filterMap f = (t.mlagGroupsOf label).flatMap fun g => ((g.groupsOf label).zip g.channels).flatMap F := by
  obtain ⟨front, back, rfl, hfront, hback⟩ := hdoes.of_append
  have hnil : front.filterMap f = [] := List.filterMap_eq_nil_iff.2 fun a ha => by
    obtain ⟨u, hu, -, hu'⟩ := hfront.exists_step ha
    exact hother a (isChannel_of_mem hu hu')
  rw [List.filterMap_append, hnil, List.nil_append, does_configureChannels hback, List.filterMap_flatMap, mlagGroupsOf,
    flatMap_filter]
  refine List.flatMap_congr fun g hg => ?_
  rw [SortedMap.contains, ChannelGroup.groupsOf]
  cases hget : g.members.get? label with
  | none =>
    rw [Option.isSome_none, Bool.and_false, if_neg Bool.false_ne_true]
    rfl
  | some groups =>
    rw [Option.isSome_some, Bool.and_true, Option.map_some, Option.getD_some, Option.getD_some, configureMember]
    split
    · next hm =>
      have hlength : groups.length = g.masterGroups.length := by
        have h := (hgroups g hg hm).length (SortedMap.mem_keys_iff.2 ⟨groups, hget⟩)
        rwa [ChannelGroup.groupsOf, hget] at h
      rw [List.filterMap_flatMap, ChannelGroup.zip_channels hlength, List.flatMap_map]
      exact List.flatMap_congr fun x _ => hmlag _ _ _
    · rw [List.filterMap_flatMap]
      exact List.flatMap_eq_nil_iff.2 fun ports _ => hlag _ _

theorem aligned_of_mem_mlagGroupsOf (hgroups : ∀ g ∈ t.channelGroups, g.isMlag = true → g.Aligned) {g : ChannelGroup}
    (hg : g ∈ t.mlagGroupsOf label) : (g.groupsOf label).length = g.masterGroups.length := by
  obtain ⟨hmem, hg⟩ := List.mem_filter.1 hg
  obtain ⟨hmlag, hcontains⟩ := Bool.and_eq_true_iff.1 hg
  exact (hgroups g hmem hmlag).length (SortedMap.mem_keys_iff.2 (Option.isSome_iff_exists.1 hcontains))

/-- The MLAG port channels that are made on a switch. -/
theorem mlagNumbers_of_does {as : List Action} (hdoes : Pass.Does label t.configure as)
    (hgroups : ∀ g ∈ t.channelGroups, g.isMlag = true → g.Aligned) :
    as.filterMap Action.mlagNumber? = (t.mlagGroupsOf label).flatMap (·.channels) := by
  rw [filterMap_does_configure (F := fun x => [x.2]) hdoes hgroups Action.mlagNumber?_of_isChannel
    (fun switch ports => (filterMap_lag switch ports).2) fun switch channel ports => (filterMap_mlag switch channel ports).2]
  refine List.flatMap_congr fun g hg => ?_
  have hlength := aligned_of_mem_mlagGroupsOf hgroups hg
  rw [← List.map_eq_flatMap]
  exact List.map_snd_zip (by rw [ChannelGroup.channels, List.length_map, hlength])

/-- The ports that are bound to MLAG port channels on a switch. -/
theorem mlagBindings_of_does {as : List Action} (hdoes : Pass.Does label t.configure as)
    (hgroups : ∀ g ∈ t.channelGroups, g.isMlag = true → g.Aligned) :
    as.filterMap Action.mlagBinding? = (t.mlagGroupsOf label).flatMap fun g =>
      ((g.groupsOf label).zip g.channels).flatMap fun x => x.1.ports.map fun port => (port, x.2) := by
  refine filterMap_does_configure hdoes hgroups Action.mlagBinding?_of_isChannel (fun switch ports => ?_)
    fun switch channel ports => ?_
  · rw [configureLagChannel]
    cases t.vlansOf switch ports.channel <;> cases t.mtuOf switch ports.channel <;> rfl
  · rw [configureMlagChannel, List.filterMap_append, List.filterMap_map]
    cases t.vlansOf switch ports.channel <;> cases t.mtuOf switch ports.channel <;>
      simp [Action.mlagBinding?, Function.comp_def]

end Topology

/-! ## Deconfiguring -/

/-- What happens when the port channels of a member are removed. Those of an MLAG group are removed if the switch says
that it has MLAG. -/
inductive ChannelGroup.TakenBack (g : ChannelGroup) (switch : String) : List Event → Prop where
  | lag : g.isMlag = false → TakenBack g switch
    ((g.groupsOf switch).map fun ports => .act switch (.removeLagInterface ports.channel) (.ok ()))
  | mlag : g.isMlag = true → TakenBack g switch
    (.query switch (.ok true) :: g.channels.map fun channel => .act switch (.removeMlagInterface channel) (.ok ()))
  | mlag_skip : g.isMlag = true → TakenBack g switch [.query switch (.ok false)]

namespace Topology

variable {t : Topology}

/-- The members of all channel groups, group by group. -/
def channelMembers (t : Topology) : List (ChannelGroup × String) :=
  t.channelGroups.flatMap fun g => g.members.keys.map fun switch => (g, switch)

theorem deconfigureChannels_eq (t : Topology) :
    t.deconfigureChannels = t.channelMembers.flatMap fun x => removeChannels x.1 x.2 (x.1.groupsOf x.2) := by
  rw [deconfigureChannels, channelMembers, List.flatMap_assoc]
  refine List.flatMap_congr fun g _ => ?_
  rw [List.flatMap_map, SortedMap.keys, List.flatMap_map]
  refine List.flatMap_congr fun e he => ?_
  rw [ChannelGroup.groupsOf, SortedMap.mem_entries_iff.1 he]
  rfl

theorem takenBack_of_completes {g : ChannelGroup} (haligned : g.isMlag = true → g.Aligned) {switch : String}
    (hs : switch ∈ g.members.keys) {es : List Event}
    (h : Pass.Completes (removeChannels g switch (g.groupsOf switch)) es) : g.TakenBack switch es := by
  rw [removeChannels] at h
  cases hmlag : g.isMlag with
  | false =>
    rw [hmlag, if_neg Bool.false_ne_true] at h
    have hacts : ((g.groupsOf switch).map fun ports => Step.act switch (.removeLagInterface ports.channel)) =
        ((g.groupsOf switch).map fun ports => .removeLagInterface ports.channel).map (.act switch) := by
      rw [List.map_map]
      rfl
    rw [hacts] at h
    rw [h.eq_of_acts, List.map_map]
    exact .lag hmlag
  | true =>
    have hchannels : ((g.groupsOf switch).zipIdx.map fun (ports, i) => Action.removeMlagInterface (mlagChannelOf g i ports)) =
        g.channels.map .removeMlagInterface := by
      rw [ChannelGroup.channels, ← ChannelGroup.map_mlagChannelOf ((haligned hmlag).length hs), List.map_map]
      rfl
    rw [hmlag, if_pos rfl, hchannels] at h
    cases h.of_singleton with
    | whenMlag =>
      rw [List.map_map]
      exact .mlag hmlag
    | whenMlag_skip => exact .mlag_skip hmlag

section Runs

variable {σ π : Type} {f : Fleet σ} {o : Operator π} {s : PassState σ π}

/-- Only a switch can fail while port channels are removed. -/
theorem ok_deconfigureChannels
    (h : ∀ why, ((Pass.plan t.deconfigure).run f o s).1 = .error why → ∃ e, why = .prompt e) :
    ((Pass.plan t.deconfigureChannels).run f o s).1 = .ok () := by
  rw [deconfigure_eq, Pass.plan_append, Plan.run_andThen] at h
  rcases hrun : (Pass.plan t.deconfigureChannels).run f o s with ⟨why | _, s'⟩
  · rw [hrun] at h
    obtain ⟨label, e, rfl⟩ := Pass.exists_switch_error (fun u => quiet_deconfigureChannels (t := t)) (congrArg Prod.fst hrun)
    obtain ⟨e', he⟩ := h _ rfl
    cases he
  · rfl

/-- If the port channels have been removed, the members of channel groups have had their turns, and what happens after
them is not about port channels. -/
theorem exists_turns_deconfigure (hgroups : ∀ g ∈ t.channelGroups, g.isMlag = true → g.Aligned)
    (hok : ((Pass.plan t.deconfigureChannels).run f o s).1 = .ok ()) :
    ∃ turns rest, (Pass.plan t.deconfigure).events f o s = turns.flatten ++ rest ∧
      List.Forall₂ (fun x turn => x.1.TakenBack x.2 turn) t.channelMembers turns ∧
      ∀ label a outcome, .act label a outcome ∈ rest → a.isChannel = false := by
  have hcompletes := Pass.completes hok
  rw [deconfigure_eq, Pass.plan_append, Plan.events_andThen]
  generalize (Pass.plan t.deconfigureChannels).events f o s = es at hcompletes
  rw [deconfigureChannels_eq] at hcompletes
  obtain ⟨turns, rfl, hturns⟩ := hcompletes.exists_turns (R := fun x turn => x.1.TakenBack x.2 turn) fun x hx turn h => by
    obtain ⟨g, hg, hx⟩ := List.mem_flatMap.1 hx
    obtain ⟨switch, hs, rfl⟩ := List.mem_map.1 hx
    exact takenBack_of_completes (hgroups g hg) hs h
  refine ⟨turns, _, rfl, hturns, fun label a outcome hact => ?_⟩
  rcases hrun : (Pass.plan t.deconfigureChannels).run f o s with ⟨_ | _, s'⟩ <;> rw [hrun] at hact
  · cases hact
  · obtain ⟨u, hu, hpermits⟩ := Pass.permits_of_mem_events f o hact
    have ha := hpermits.mem_actions.2
    rcases List.mem_append.1 hu with hu | hu
    · obtain ⟨l, -, rfl⟩ := List.mem_map.1 hu
      rw [List.mem_singleton.1 ha]
      rfl
    · obtain ⟨switch, b, rfl, -, hb⟩ := act_of_mem_release hu
      rw [List.mem_singleton.1 ha]
      exact hb

end Runs

end Topology

/-! ## Both ends -/

namespace Cluster

/-- Both ends of an MLAG port channel have the same number. Let the channel groups of a definition have passed their
check; the definition need not pass any other. A group with two members has its master among them and as many port groups
on both, and the number at a place is the lowest port of the master's group there; the port group of the member does not
matter to it.

When such a topology is configured to the end, with any drivers, the MLAG port channels that are made on a switch are
those of the groups with two members of which it is one, group by group, and each port of the switch is bound to the
number at the place of its port group. When it is deconfigured, and removing the port channels ends well, which it does
unless a switch fails, the members of all groups have their turns: from a member of such a group that has MLAG the port
channels with these numbers are removed, and afterwards no others. -/
theorem mlag_channels_aligned {c : Cluster} {t : Topology} (hg : c.channelGroups = .ok t.channelGroups) :
    (∀ g ∈ t.channelGroups, g.isMlag = true →
      g.master ∈ g.members.keys ∧ (∀ switch ∈ g.members.keys, (g.groupsOf switch).length = g.masterGroups.length) ∧
      ∀ i (hi : i < g.masterGroups.length), ∃ n ∈ g.masterGroups[i].ports, (∀ port ∈ g.masterGroups[i].ports, n ≤ port) ∧
        g.mlagChannel i = some n ∧ g.channels[i]? = some n ∧ ∀ ports, Topology.mlagChannelOf g i ports = n) ∧
    ∀ {σ π : Type} (f : Fleet σ) (o : Operator π) (s : PassState σ π),
      ((Pass.run f o t t.configure s).1 = .ok () → ∀ label,
        let done := effects label (Pass.events f o t t.configure s)
        done.filterMap Action.mlagNumber? = (t.mlagGroupsOf label).flatMap (·.channels) ∧
          done.filterMap Action.mlagBinding? = (t.mlagGroupsOf label).flatMap fun g =>
            ((g.groupsOf label).zip g.channels).flatMap fun x => x.1.ports.map fun port => (port, x.2)) ∧
      ((∀ why, (Pass.run f o t t.deconfigure s).1 = .error why → ∃ e, why = .prompt e) →
        (Pass.run f o t t.deconfigureChannels s).1 = .ok ()) ∧
      ((Pass.run f o t t.deconfigureChannels s).1 = .ok () →
        ∃ turns rest, Pass.events f o t t.deconfigure s = turns.flatten ++ rest ∧
          List.Forall₂ (fun x turn => x.1.TakenBack x.2 turn) t.channelMembers turns ∧
          ∀ label channel outcome, .act label (.removeMlagInterface channel) outcome ∉ rest) := by
  have hgroups : ∀ g ∈ t.channelGroups, g.isMlag = true → g.Aligned := fun g hmem hmlag =>
    ChannelGroup.aligned_of_check (checkGroup_of_mem hg hmem) hmlag
  refine ⟨fun g hmem hmlag => ⟨(hgroups g hmem hmlag).master, fun _ => (hgroups g hmem hmlag).length, fun i hi => ?_⟩, ?_⟩
  · have hchannel := ChannelGroup.mlagChannel_of_lt hi
    refine ⟨_, PortGroup.channel_mem _, fun port hport => List.min_le_of_mem hport, hchannel, ?_, fun ports => ?_⟩
    · rw [ChannelGroup.channels, List.getElem?_map, List.getElem?_eq_getElem hi, Option.map_some]
    · rw [Topology.mlagChannelOf, hchannel, Option.getD_some]
  intro σ π f o s
  cases hcovered : Pass.missingDriver f t.switches s.fleet with
  | some missing =>
    rw [Pass.run_of_missing f o hcovered, Pass.run_of_missing f o hcovered, Pass.run_of_missing f o hcovered]
    refine ⟨nofun, fun hprompt => ?_, nofun⟩
    obtain ⟨e, he⟩ := hprompt _ rfl
    cases he
  | none =>
    rw [Pass.run_of_covered f o hcovered, Pass.run_of_covered f o hcovered, Pass.run_of_covered f o hcovered,
      Pass.events_of_covered f o hcovered, Pass.events_of_covered f o hcovered]
    refine ⟨fun hok label => ?_, Topology.ok_deconfigureChannels, fun hok => ?_⟩
    · obtain ⟨as, hdoes, -, hall⟩ := Pass.exists_does f o label t.configure s
      rw [hall hok]
      exact ⟨Topology.mlagNumbers_of_does hdoes hgroups, Topology.mlagBindings_of_does hdoes hgroups⟩
    · obtain ⟨turns, rest, hevents, hturns, hrest⟩ := Topology.exists_turns_deconfigure hgroups hok
      exact ⟨turns, rest, hevents, hturns, fun label channel outcome hact => by cases hrest label _ outcome hact⟩

/-- On the pair of the scenario the ports of the second member are bound to the numbers of the first, and these numbers are
taken back on both. -/
theorem mlag_channels_aligned_mlagPair :
    let t := Scenario.mlagPair.topology
    let s : PassState Recording Script :=
      ⟨.start (.ofList [("data_1", ⟨true, none⟩), ("data_2", ⟨false, none⟩)]), ⟨[true], []⟩⟩
    let done := effects "data_2" (Pass.events Recording.fleet Script.operator t t.configure s)
    done.filterMap Action.mlagNumber? = [7, 8] ∧ done.filterMap Action.mlagBinding? = [(3, 7), (4, 8)] ∧
      ∃ turns rest, Pass.events Recording.fleet Script.operator t t.deconfigure s = turns.flatten ++ rest ∧
        List.Forall₂ (fun x turn => x.1.TakenBack x.2 turn) t.channelMembers turns ∧
        t.channelMembers.map (fun x => (x.1.channels, x.2)) = [([7, 8], "data_1"), ([7, 8], "data_2")] := by
  intro t s
  have hg : Scenario.mlagPair.cluster.channelGroups = .ok t.channelGroups :=
    (topology_eq_ok (Scenario.topology_cluster .mlagPair)).2.2.1
  obtain ⟨-, hruns⟩ := mlag_channels_aligned hg
  obtain ⟨hconfigure, -, hdeconfigure⟩ := hruns Recording.fleet Script.operator s
  obtain ⟨hnumbers, hbindings⟩ := hconfigure (by decide +kernel) "data_2"
  obtain ⟨turns, rest, hevents, hturns, -⟩ := hdeconfigure (by decide +kernel)
  exact ⟨hnumbers.trans (by decide +kernel), hbindings.trans (by decide +kernel), turns, rest, hevents, hturns,
    by decide +kernel⟩

end Cluster

end SwitchFabric
