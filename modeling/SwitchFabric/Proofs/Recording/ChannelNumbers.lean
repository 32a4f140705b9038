import SwitchFabric.Cluster.Builder
import SwitchFabric.Proofs.Recording.Fresh
import SwitchFabric.Proofs.Topology.Channels

/-!
# The channel numbers that switches are given

The numbers of LAGs and MLAG port channels that a switch records when it is configured are those of its port groups
(`lagNumbers_configure`, `mlagNumbers_configure`). MLAG is configured at most once on a switch
(`length_iplNumbers`), and with the number of its pair (`exists_pair_of_mem_iplNumbers`).
-/

namespace SwitchFabric

open Recording (mlagReplay actionsOn)

namespace Action

/-- The number that a LAG is made with. -/
def lagNumber? : Action → Option Nat
  | createLagInterface channel => some channel
  | _ => none

/-- The number that an MLAG port channel is made with. -/
def mlagNumber? : Action → Option Nat
  | createMlagInterface channel => some channel
  | _ => none

theorem lagNumber?_of_isChannel (a : Action) (h : a.isChannel = false) : a.lagNumber? = none := by
  cases a <;> first | rfl | cases h

theorem mlagNumber?_of_isChannel (a : Action) (h : a.isChannel = false) : a.mlagNumber? = none := by
  cases a <;> first | rfl | cases h

/-- The number of the inter-peer link that MLAG is configured with. -/
def iplNumber? : Action → Option Nat
  | configureMlag params => some params.channel
  | _ => none

end Action

namespace Recording

/-- The numbers of the LAGs made on a switch. -/
def lagNumbers (label : String) (cs : List RecordedCall) : List Nat :=
  (actionsOn label cs).filterMap Action.lagNumber?

/-- The numbers of the MLAG port channels made on a switch. -/
def mlagNumbers (label : String) (cs : List RecordedCall) : List Nat :=
  (actionsOn label cs).filterMap Action.mlagNumber?

/-- The numbers of the inter-peer link that MLAG is configured with on a switch. -/
def iplNumbers (label : String) (cs : List RecordedCall) : List Nat :=
  (actionsOn label cs).filterMap Action.iplNumber?

end Recording

/-! ## The numbers of steps -/

namespace Pass

variable {ts : List Step} {m : String → Bool} {label : String}

/-- Steps without actions of a kind record none of the kind. -/
theorem filterMap_actionsOn_eq_nil {f : Action → Option Nat}
    (h : ∀ t ∈ ts, ∀ a ∈ t.actions, f a = none) : (actionsOn label ((plan ts).calls m)).filterMap f = [] := by
  rw [List.filterMap_eq_nil_iff]
  intro a ha
  obtain ⟨t, ht, -, ha⟩ := exists_step_of_mem_calls (Recording.mem_actionsOn.1 ha)
  exact h t ht a ha

/-- Plain actions on one switch after another are recorded as they are. -/
theorem actionsOn_calls_flatMap {α : Type} {l : List α} {switch : α → String} {as : α → List Action} :
    actionsOn label ((plan (l.flatMap fun x => (as x).map (.act (switch x)))).calls m) =
      l.flatMap fun x => if switch x = label then as x else [] := by
  have hone (s : String) (bs : List Action) (m : String → Bool) :
      actionsOn label ((plan (bs.map (.act s))).calls m) = if s = label then bs else [] := by
    induction bs generalizing m with
    | nil => rw [ite_self]; rfl
    | cons b bs ih =>
      rw [List.map_cons, calls_cons, Recording.actionsOn_append, ih, Step.calls]
      by_cases hs : s = label <;> simp [actionsOn, hs]
  induction l generalizing m with
  | nil => rfl
  | cons x l ih =>
    rw [List.flatMap_cons, calls_append, Recording.actionsOn_append, hone, ih, List.flatMap_cons]

end Pass

namespace Topology

variable {t : Topology} {m : String → Bool} {label : String}

/-- What is recorded on a switch for its port channels: what is done for it in each channel group. -/
theorem actionsOn_configureChannels :
    actionsOn label ((Pass.plan t.configureChannels).calls m) =
      t.channelGroups.flatMap fun g => ((g.members.get? label).map (t.configureMember g label)).getD [] := by
  rw [configureChannels_eq, Pass.actionsOn_calls_flatMap, flatMap_configureMember]

theorem filterMap_configure {f : Action → Option Nat} (hf : ∀ a : Action, a.isChannel = false → f a = none) :
    (actionsOn label ((Pass.plan t.configure).calls m)).filterMap f =
      t.channelGroups.flatMap fun g =>
        (((g.members.get? label).map (t.configureMember g label)).getD []).filterMap f := by
  rw [configure, Pass.calls_append, Recording.actionsOn_append, List.filterMap_append,
    Pass.filterMap_actionsOn_eq_nil fun u hu a ha => hf a (isChannel_of_mem hu ha), List.nil_append, actionsOn_configureChannels,
    List.filterMap_flatMap]

/-- A LAG is made once for its port group, and an MLAG port channel once for its own. -/
theorem filterMap_lag (switch : String) (ports : PortGroup) :
    (t.configureLagChannel switch ports).filterMap Action.lagNumber? = [ports.channel] ∧
      (t.configureLagChannel switch ports).filterMap Action.mlagNumber? = [] := by
  rw [configureLagChannel]
  cases t.vlansOf switch ports.channel <;> cases t.mtuOf switch ports.channel <;> exact ⟨rfl, rfl⟩

theorem filterMap_mlag (switch : String) (channel : Nat) (ports : PortGroup) :
    (t.configureMlagChannel switch channel ports).filterMap Action.lagNumber? = [] ∧
      (t.configureMlagChannel switch channel ports).filterMap Action.mlagNumber? = [channel] := by
  have hbind (f : Action → Option Nat) (hf : ∀ port, f (.bindPortToMlagInterface port channel) = none) :
      (ports.ports.map fun port => .bindPortToMlagInterface port channel).filterMap f = [] := by
    rw [List.filterMap_map, List.filterMap_eq_nil_iff]
    exact fun port _ => hf port
  rw [configureMlagChannel]
  constructor
  · rw [List.filterMap_append, List.filterMap_append, hbind _ fun _ => rfl]
    cases t.vlansOf switch ports.channel <;> cases t.mtuOf switch ports.channel <;> rfl
  · rw [List.filterMap_append, List.filterMap_append, hbind _ fun _ => rfl]
    cases t.vlansOf switch ports.channel <;> cases t.mtuOf switch ports.channel <;> rfl

/-- The LAGs that a switch makes are its port groups in channel groups of one member. -/
theorem lagNumbers_configure :
    Recording.lagNumbers label ((Pass.plan t.configure).calls m) =
      (t.lagGroups label).map PortGroup.channel := by
  rw [Recording.lagNumbers, filterMap_configure Action.lagNumber?_of_isChannel, lagGroups,
    List.map_flatMap]
  refine List.flatMap_congr fun g _ => ?_
  rw [ChannelGroup.groupsOf]
  cases g.members.get? label with
  | none => split <;> rfl
  | some groups =>
    rw [Option.map_some, Option.getD_some, Option.getD_some, configureMember]
    split
    · rw [List.filterMap_flatMap]
      exact List.flatMap_eq_nil_iff.2 fun e _ => (filterMap_mlag label _ e.1).1
    · rw [List.filterMap_flatMap, List.map_eq_flatMap]
      exact List.flatMap_congr fun ports _ => (filterMap_lag label ports).1

/-- The MLAG port channels that a switch makes have the numbers that its channel groups give them. -/
theorem mlagNumbers_configure :
    Recording.mlagNumbers label ((Pass.plan t.configure).calls m) = t.mlagChannels label := by
  rw [Recording.mlagNumbers, filterMap_configure Action.mlagNumber?_of_isChannel, mlagChannels]
  refine List.flatMap_congr fun g _ => ?_
  rw [ChannelGroup.groupsOf]
  cases g.members.get? label with
  | none => split <;> rfl
  | some groups =>
    rw [Option.map_some, Option.getD_some, Option.getD_some, configureMember]
    split
    · rw [List.filterMap_flatMap, List.map_eq_flatMap]
      exact List.flatMap_congr fun e _ => (filterMap_mlag label _ e.1).2
    · rw [List.filterMap_flatMap]
      exact List.flatMap_eq_nil_iff.2 fun ports _ => (filterMap_lag label ports).2

end Topology

/-! ## The number of the inter-peer link -/

namespace Recording

theorem mem_iplNumbers {label : String} {cs : List RecordedCall} {n : Nat} :
    n ∈ iplNumbers label cs ↔
      ∃ params, ⟨label, .act (.configureMlag params)⟩ ∈ cs ∧ params.channel = n := by
  rw [iplNumbers, List.mem_filterMap]
  constructor
  · rintro ⟨a, ha, hn⟩
    cases a with
    | configureMlag params => exact ⟨params, mem_actionsOn.1 ha, Option.some.inj hn⟩
    | _ => cases hn
  · rintro ⟨params, hm, rfl⟩
    exact ⟨_, mem_actionsOn.2 hm, rfl⟩

theorem iplNumbers_append (label : String) (cs ds : List RecordedCall) :
    iplNumbers label (cs ++ ds) = iplNumbers label cs ++ iplNumbers label ds := by
  rw [iplNumbers, actionsOn_append, List.filterMap_append]
  rfl

theorem iplNumbers_eq_nil {label : String} {cs : List RecordedCall}
    (h : ∀ params, ⟨label, .act (.configureMlag params)⟩ ∉ cs) : iplNumbers label cs = [] := by
  refine List.eq_nil_iff_forall_not_mem.2 fun n hn => ?_
  obtain ⟨params, hm, -⟩ := mem_iplNumbers.1 hn
  exact h params hm

end Recording

/-- The step configures MLAG on a switch only if the switch has none. -/
def Step.GuardsMlag (u : Step) : Prop :=
  ∀ params, .configureMlag params ∈ u.actions → u = .whenMlag u.switch false [.configureMlag params]

/-- MLAG is configured at most once on a switch that has none, and not on one that has it, if it is not taken
down in between. -/
theorem Pass.length_iplNumbers {ts : List Step} (hts : ∀ u ∈ ts, u.Quiet ∧ u.GuardsMlag) (m : String → Bool)
    (label : String) :
    (Recording.iplNumbers label ((plan ts).calls m)).length ≤ if m label then 0 else 1 := by
  induction ts generalizing m with
  | nil => exact Nat.zero_le _
  | cons u ts ih =>
    obtain ⟨⟨hquiet, hguard⟩, hts⟩ := List.forall_mem_cons.1 hts
    have hrest := ih hts (mlagReplay m (u.calls m))
    rw [calls_cons, Recording.iplNumbers_append, List.length_append]
    by_cases hu : ∃ params, ⟨label, .act (.configureMlag params)⟩ ∈ u.calls m
    · obtain ⟨params, hc⟩ := hu
      obtain ⟨hs, ha⟩ := Step.mem_actions_of_mem_calls hc
      rw [hguard params ha, ← hs] at hc hrest ⊢
      cases hm : m label with
      | true => simp [Step.calls, hm] at hc
      | false =>
        -- the number of this step, and no further one
        have hmlag : mlagReplay m ((Step.whenMlag label false [.configureMlag params]).calls m) label = true := by
          rw [Step.calls, if_pos hm]
          exact if_pos rfl
        have hone : Recording.iplNumbers label
            ((Step.whenMlag label false [.configureMlag params]).calls m) = [params.channel] := by
          rw [Step.calls, if_pos hm]
          simp [Recording.iplNumbers, actionsOn, Action.iplNumber?]
        rw [hmlag, if_pos rfl] at hrest
        rw [hone, List.length_singleton, if_neg Bool.false_ne_true]
        omega
    · rw [Recording.iplNumbers_eq_nil fun params hc => hu ⟨params, hc⟩, List.length_nil, Nat.zero_add]
      refine Nat.le_trans hrest ?_
      cases hm : m label with
      | true =>
        have hkept : mlagReplay m (u.calls m) label = true :=
          Recording.mlagReplay_of_true hm fun hc => hquiet.2 (Step.mem_actions_of_mem_calls hc).2
        exact Nat.le_of_eq (by rw [hkept])
      | false => split <;> decide

namespace Topology

variable {t : Topology} {m : String → Bool} {label : String}

theorem length_iplNumbers_configure (m : String → Bool) (label : String) :
    (Recording.iplNumbers label ((Pass.plan t.configure).calls m)).length ≤ 1 := by
  have hguard : ∀ u ∈ t.configure, u.Quiet ∧ u.GuardsMlag := fun u hu => by
    refine ⟨quiet_configure hu, fun params ha => ?_⟩
    obtain ⟨p, -, member, -, -, hstep⟩ := mem_configureMlag_of_actions hu ha
    rw [hstep]
    rfl
  refine Nat.le_trans (Pass.length_iplNumbers hguard m label) ?_
  split <;> decide

/-- The number is that of a pair that the switch is a member of. -/
theorem exists_pair_of_mem_iplNumbers {n : Nat}
    (h : n ∈ Recording.iplNumbers label ((Pass.plan t.configure).calls m)) :
    ∃ p ∈ t.mlagPairs, n = p.iplChannel ∧ ∃ member ∈ p.members, member.switch = label := by
  obtain ⟨params, hc, rfl⟩ := Recording.mem_iplNumbers.1 h
  obtain ⟨u, hu, hs, ha⟩ := Pass.exists_step_of_mem_calls hc
  obtain ⟨p, hp, member, hm, rfl, rfl⟩ := mem_configureMlag_of_actions hu ha
  exact ⟨p, hp, rfl, member, hm, hs.symm⟩

/-- A member of a pair is given a number, if it has no MLAG before. -/
theorem iplNumbers_ne_nil (hl : label ∈ t.memberLabels) (hm : m label = false) :
    Recording.iplNumbers label ((Pass.plan t.configure).calls m) ≠ [] := by
  intro hnil
  have hmlag := mlag_of_configure hl m
  have hnone : ∀ params, ⟨label, .act (.configureMlag params)⟩ ∉ (Pass.plan t.configure).calls m :=
    fun params hc => by
      have hn := Recording.mem_iplNumbers.2 ⟨params, hc, rfl⟩
      rw [hnil] at hn
      cases hn
  rw [Recording.mlagReplay_of_false hm hnone] at hmlag
  cases hmlag

end Topology

/-! ## Numbers that do not clash -/

/-- The number of the inter-peer link differs from those of a switch's LAGs, unless the switch is the peer of a
pair and one of its LAGs has the number that the pair takes from its master. -/
theorem Cluster.Checked.nodup_numbers_iff {c : Cluster} (h : c.Checked) {t : Topology} (ht : c.topology = .ok t)
    (hports : ∀ switch, t.DistinctPorts switch) {m : String → Bool} {switch : String} (hm : m switch = false) :
    let calls := (Pass.plan t.configure).calls m
    (Recording.iplNumbers switch calls ++ Recording.lagNumbers switch calls).Nodup ↔
      ∀ p ∈ t.mlagPairs, p.peer.switch = switch →
        ∀ ports ∈ t.lagGroups switch, ports.channel ≠ p.iplChannel := by
  intro calls
  obtain ⟨-, -, -, hp⟩ := Cluster.topology_eq_ok ht
  have hlag : Recording.lagNumbers switch calls = (t.lagGroups switch).map PortGroup.channel :=
    Topology.lagNumbers_configure
  rw [hlag, List.nodup_append']
  constructor
  · rintro ⟨-, -, hdisjoint⟩ p hmem hs ports hgroup heq
    -- the switch is given a number, which is that of its only pair
    have hl : switch ∈ t.memberLabels :=
      List.mem_flatMap.2 ⟨p, hmem, List.mem_map.2 ⟨p.peer, List.mem_cons_of_mem _ List.mem_cons_self, hs⟩⟩
    obtain ⟨n, hn⟩ := List.exists_mem_of_ne_nil _ (Topology.iplNumbers_ne_nil hl hm)
    obtain ⟨p', hmem', rfl, member, hmember, hs'⟩ := Topology.exists_pair_of_mem_iplNumbers hn
    have hunique : p' = p := h.pair_unique hp hmem' hmem hmember
      (List.mem_cons_of_mem _ List.mem_cons_self) (hs'.trans hs.symm)
    rw [hunique] at hn
    exact hdisjoint hn (List.mem_map.2 ⟨ports, hgroup, heq⟩)
  · intro hclear
    refine ⟨?_, Topology.nodup_lagChannels (hports switch), fun n hn hn' => ?_⟩
    · have hlength : (Recording.iplNumbers switch calls).length ≤ 1 := Topology.length_iplNumbers_configure m switch
      match hnumbers : Recording.iplNumbers switch calls with
      | [] => exact List.nodup_nil
      | [n] => exact List.nodup_singleton n
      | _ :: _ :: _ =>
        rw [hnumbers, List.length_cons, List.length_cons] at hlength
        omega
    · obtain ⟨p, hmem, rfl, member, hmember, hs⟩ := Topology.exists_pair_of_mem_iplNumbers hn
      obtain ⟨ports, hgroup, heq⟩ := List.mem_map.1 hn'
      rcases List.mem_cons.1 hmember with rfl | hmember
      · have hown := Topology.channel_notMem_ipl (hports switch) hgroup hmem List.mem_cons_self hs
        rw [heq] at hown
        exact hown p.master.ports.channel_mem
      · rw [List.mem_singleton.1 hmember] at hs
        exact hclear p hmem hs ports hgroup heq

namespace Recording

/-- The numbers that switches without MLAG are given when they are configured. Let no port of a switch come twice
among those of its port groups and of its inter-peer link. Then the numbers of its LAGs are pairwise different,
and so are those of its MLAG port channels. The number of the inter-peer link, which both members of a pair take
from the master's ports, differs from those of its LAGs unless the switch is the peer of the pair and has a LAG
whose lowest port is the lowest port of the master's link; so it does if that is a port of the peer's link, too. -/
theorem channel_numbers_distinct {c : Cluster} (hcheck : c.check = .ok ()) {t : Topology}
    (ht : c.topology = .ok t) (hports : ∀ switch ∈ t.switches, t.DistinctPorts switch)
    {switches : SortedMap String RecordingSwitch} (hfresh : Fresh c switches) {π : Type} (o : Operator π)
    (operator : π) (switch : String) :
    let log := (Pass.run fleet o t t.configure ⟨start switches, operator⟩).2.fleet.log
    (lagNumbers switch log).Nodup ∧ (mlagNumbers switch log).Nodup ∧
      ((iplNumbers switch log ++ lagNumbers switch log).Nodup ↔
        ∀ p ∈ t.mlagPairs, p.peer.switch = switch →
          ∀ ports ∈ t.lagGroups switch, ports.channel ≠ p.iplChannel) ∧
      ((∀ p ∈ t.mlagPairs, p.peer.switch = switch → p.iplChannel ∈ p.peer.ports.ports) →
        (iplNumbers switch log ++ lagNumbers switch log).Nodup) := by
  intro log
  have h := Cluster.checked_of_check hcheck
  have hall := Topology.distinctPorts_of_forall hports
  have hlog : log = (Pass.plan t.configure).calls fun _ => false := (hfresh.configure h ht o operator).2.1
  have hiff := @Cluster.Checked.nodup_numbers_iff c h t ht hall (fun _ => false) switch rfl
  rw [hlog]
  refine ⟨?_, ?_, hiff, fun hown => hiff.2 fun p hmem hs ports hgroup heq => ?_⟩
  · rw [Topology.lagNumbers_configure]
    exact Topology.nodup_lagChannels (hall switch)
  · rw [Topology.mlagNumbers_configure]
    exact h.nodup_mlagChannels ht hall switch
  · have hnot := Topology.channel_notMem_ipl (hall switch) hgroup hmem
      (List.mem_cons_of_mem _ List.mem_cons_self) hs
    rw [heq] at hnot
    exact hnot (hown p hmem hs)

/-- A pair whose members use different ports for their link. The peer has a LAG on the ports that the master uses
for it. -/
def crossedPair : Cluster :=
  Cluster.bare.withSwitch "data_1"
    |>.withSwitch "data_2"
    |>.withMlagPair "data_1" ⟨[29, 30], 4000, "10.0.0.1", 30, none⟩
      "data_2" ⟨[31, 32], 4000, "10.0.0.2", 30, none⟩
    |>.withInterface (.bond "bond0")
    |>.withInterface (.bondSlave "eth10" "bond0")
    |>.withInterface (.bondSlave "eth11" "bond0")
    |>.withTemplate "compute" [⟨"data_2", "eth10", [29]⟩, ⟨"data_2", "eth11", [30]⟩]
    |>.withTemplateInterface "compute" "bond0"

/-- The numbers can clash on a peer: its LAG is made with the number of its inter-peer link. -/
theorem channel_clash_crossedPair :
    let t := crossedPair.topology.toOption.getD .empty
    let switches := SortedMap.ofList [("data_1", .plain), ("data_2", .plain)]
    let log := (Pass.run fleet Script.operator t t.configure ⟨start switches, ⟨[], []⟩⟩).2.fleet.log
    crossedPair.check = .ok () ∧ crossedPair.topology = .ok t ∧ (∀ switch, t.DistinctPorts switch) ∧
      Fresh crossedPair switches ∧ iplNumbers "data_2" log = [29] ∧ lagNumbers "data_2" log = [29] ∧
      ¬ (iplNumbers "data_2" log ++ lagNumbers "data_2" log).Nodup := by
  intro t switches log
  have hipl : iplNumbers "data_2" log = [29] := by decide +kernel
  have hlag : lagNumbers "data_2" log = [29] := by decide +kernel
  refine ⟨rfl, rfl, ?_, ⟨?_, ?_⟩, hipl, hlag, ?_⟩
  · exact Topology.distinctPorts_of_forall (by decide +kernel)
  · decide +kernel
  · decide +kernel
  · rw [hipl, hlag]
    decide

/-- The pair of the scenario, whose members use the same ports for their link, with a LAG on the peer. -/
def pairWithLag : Cluster :=
  Scenario.mlagPair.cluster.withInterface (.bond "bond1")
    |>.withInterface (.bondSlave "eth12" "bond1")
    |>.withInterface (.bondSlave "eth13" "bond1")
    |>.withTemplate "storage" [⟨"data_2", "eth12", [11]⟩, ⟨"data_2", "eth13", [12]⟩]
    |>.withTemplateInterface "storage" "bond1"

/-- The peer of that pair makes its link, its LAG and its MLAG channels with different numbers. -/
theorem channel_numbers_distinct_pairWithLag :
    let t := pairWithLag.topology.toOption.getD .empty
    let switches := SortedMap.ofList [("data_1", .plain), ("data_2", .plain)]
    let log := (Pass.run fleet Script.operator t t.configure ⟨start switches, ⟨[], []⟩⟩).2.fleet.log
    iplNumbers "data_2" log = [29] ∧ lagNumbers "data_2" log = [11] ∧ mlagNumbers "data_2" log = [7, 8] ∧
      (iplNumbers "data_2" log ++ lagNumbers "data_2" log).Nodup := by
  intro t switches log
  have hfresh : Fresh pairWithLag switches := ⟨by decide +kernel, by decide +kernel⟩
  have h := channel_numbers_distinct (c := pairWithLag) rfl (t := t) rfl (by decide +kernel) hfresh Script.operator
    ⟨[], []⟩ "data_2"
  exact ⟨by decide +kernel, by decide +kernel, by decide +kernel, h.2.2.2 (by decide +kernel)⟩

end Recording

end SwitchFabric
