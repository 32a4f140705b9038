import SwitchFabric.Proofs.Recording.Fresh
import SwitchFabric.Proofs.Topology.Pairs

/-!
# Configuring switches that show nothing

A switch that never shows MLAG is still configured like one that does: its calls are those of the steps where no MLAG
is found (`Step.blindCalls`). Compared with the calls of the same steps on switches that show the MLAG they were given,
what is missing is that MLAG is enabled, and nothing else (`Topology.actionsOn_configure`), as long as no switch is
twice a member of a pair (`Cluster.Checked.nodup_memberLabels`).
-/

namespace SwitchFabric

open Recording (actionsOn actionsOn_append mlagStep mlagReplay mlagAfter)

/-- The calls of a step on switches that show no MLAG. -/
def Step.blindCalls (t : Step) : List RecordedCall := t.calls fun _ => false

/-- The switch that a step brings MLAG to. -/
def Step.newMember? : Step → Option String
  | whenMlag switch false _ => some switch
  | act _ _ | whenMlag _ true _ | withConsent _ _ _ => none

/-- Configuring brings MLAG to the members of the pairs, in their order. -/
theorem Topology.filterMap_newMember (t : Topology) : t.configure.filterMap Step.newMember? = t.memberLabels := by
  have hvlans : t.configureVlans.filterMap Step.newMember? = [] := by
    refine List.filterMap_eq_nil_iff.2 fun u hu => ?_
    obtain ⟨switch, ports, port, vlans, -, -, ⟨v, -, rfl⟩ | rfl | rfl⟩ := mem_configureVlans hu <;> rfl
  have hmtus : t.configureMtus.filterMap Step.newMember? = [] := by
    refine List.filterMap_eq_nil_iff.2 fun u hu => ?_
    obtain ⟨switch, mtus, mtu, ports, -, -, port, -, rfl⟩ := mem_configureMtus hu
    rfl
  have hchannels : t.configureChannels.filterMap Step.newMember? = [] := by
    refine List.filterMap_eq_nil_iff.2 fun u hu => ?_
    obtain ⟨g, -, switch, groups, -, a, -, rfl⟩ := mem_configureChannels hu
    rfl
  have hpair (p : MlagPair) : (configurePair p).filterMap Step.newMember? = p.members.map (·.switch) := by
    simp [configurePair, MlagPair.members, Step.newMember?]
  rw [configure, List.filterMap_append, List.filterMap_append, List.filterMap_append, hvlans, hmtus, hchannels,
    configureMlag, List.filterMap_flatMap, memberLabels]
  simp [hpair]

/-- Without two switches in one, no switch is twice a member of a pair. -/
theorem Cluster.Checked.nodup_memberLabels {c : Cluster} (h : c.Checked) {t : Topology} (ht : c.topology = .ok t)
    (htwo : ∀ label, c.mlagPeer label ≠ some label) : t.memberLabels.Nodup := by
  have hp := (topology_eq_ok ht).2.2.2
  rw [Topology.memberLabels, List.nodup_flatMap]
  constructor
  · intro p hmem
    have hne : p.master.switch ≠ p.peer.switch := fun heq => by
      have hpeer := (h.peers_of_mem hp hmem).1
      rw [← heq] at hpeer
      exact htwo _ hpeer
    simpa [MlagPair.members] using hne
  · refine (h.nodup_mlagPairs hp).imp_of_mem fun {p q} hpmem hqmem hne => ?_
    refine List.disjoint_left.2 fun label hl hl' => ?_
    obtain ⟨m, hm, rfl⟩ := List.mem_map.1 hl
    obtain ⟨m', hm', hs⟩ := List.mem_map.1 hl'
    exact hne (h.pair_unique hp hpmem hqmem hm hm' hs.symm)

/-! ## What is missing -/

namespace Topology.Configures

variable {t : Topology} {u : Step}

/-- A step does, besides enabling MLAG, what it does on switches that show no MLAG, if it brings MLAG to a switch
without. -/
theorem actionsOn_calls (hu : t.Configures u) {m : String → Bool} (hm : ∀ l ∈ u.newMember?, m l = false)
    (label : String) :
    (actionsOn label (u.calls m)).filter (· ≠ .enableMlag) = actionsOn label u.blindCalls := by
  cases hu with
  | @act switch a ha =>
    have hne : a ≠ .enableMlag := by
      rintro rfl
      cases ha
    by_cases hs : switch = label <;> simp [Step.calls, Step.blindCalls, actionsOn, hs, hne]
  | @configureMlag p member _ _ =>
    have hnone : m member.switch = false := hm member.switch rfl
    rw [Step.calls, if_pos hnone]
    by_cases hs : member.switch = label <;> simp [Step.blindCalls, Step.calls, actionsOn, hs]
  | @enableMlag p member _ _ =>
    rw [Step.calls]
    by_cases hs : member.switch = label <;> split <;> simp [Step.blindCalls, Step.calls, actionsOn, hs]

/-- A step changes the MLAG of no switch but of the one that it brings MLAG to. -/
theorem mlagReplay_calls (hu : t.Configures u) (m : String → Bool) {label : String}
    (hl : u.newMember? ≠ some label) : mlagReplay m (u.calls m) label = m label := by
  cases hu with
  | @act switch a ha =>
    have hkeeps (b : Bool) : mlagAfter b a = b := by cases a <;> first | rfl | cases ha
    simp [Step.calls, mlagStep, hkeeps]
  | @configureMlag p member _ _ =>
    have hne : label ≠ member.switch := fun heq => hl (by rw [heq]; rfl)
    rw [Step.calls]
    split <;> simp [mlagStep, hne]
  | enableMlag _ _ =>
    rw [Step.calls]
    split <;> simp [mlagStep, mlagAfter]

/-- Where steps bring MLAG to switches without it, to each one time, their calls are, besides enabling MLAG, those on
switches that show no MLAG. -/
theorem actionsOn_calls_plan {us : List Step} (hus : ∀ u ∈ us, t.Configures u)
    (hnodup : (us.filterMap Step.newMember?).Nodup) {m : String → Bool}
    (hm : ∀ l ∈ us.filterMap Step.newMember?, m l = false) (label : String) :
    (actionsOn label ((Pass.plan us).calls m)).filter (· ≠ .enableMlag) =
      actionsOn label (us.flatMap Step.blindCalls) := by
  induction us generalizing m with
  | nil => rfl
  | cons u us ih =>
    obtain ⟨hu, hrest⟩ := List.forall_mem_cons.1 hus
    have htail : (us.filterMap Step.newMember?).Sublist ((u :: us).filterMap Step.newMember?) :=
      (List.sublist_cons_self u us).filterMap _
    have hnew : ∀ l ∈ us.filterMap Step.newMember?, u.newMember? ≠ some l := by
      intro l hl hnew
      rw [List.filterMap_cons_some hnew, List.nodup_cons] at hnodup
      exact hnodup.1 hl
    have hown : ∀ l ∈ u.newMember?, m l = false := fun l hl =>
      hm l (List.mem_filterMap.2 ⟨u, List.mem_cons_self, hl⟩)
    have hafter : ∀ l ∈ us.filterMap Step.newMember?, mlagReplay m (u.calls m) l = false := fun l hl => by
      rw [hu.mlagReplay_calls m (hnew l hl), hm l (htail.subset hl)]
    rw [Pass.calls_cons, actionsOn_append, List.filter_append, List.flatMap_cons, actionsOn_append,
      hu.actionsOn_calls hown, ih hrest (hnodup.sublist htail) hafter]

end Topology.Configures

namespace Topology

variable {t : Topology}

/-- What configuring has switches without MLAG do is, besides enabling it, what it has switches do that show none. -/
theorem actionsOn_configure (h : t.memberLabels.Nodup) (label : String) :
    (actionsOn label ((Pass.plan t.configure).calls fun _ => false)).filter (· ≠ .enableMlag) =
      actionsOn label (t.configure.flatMap Step.blindCalls) := by
  rw [← filterMap_newMember] at h
  exact Configures.actionsOn_calls_plan (fun u => configures_of_mem) h (fun _ _ => rfl) label

/-- Configuring enables MLAG on the members of the pairs. -/
theorem enableMlag_mem_configure (m : String → Bool) (label : String) :
    .enableMlag ∈ actionsOn label ((Pass.plan t.configure).calls m) ↔ label ∈ t.memberLabels := by
  rw [Recording.mem_actionsOn]
  constructor
  · intro h
    obtain ⟨u, hu, rfl, ha⟩ := Pass.exists_step_of_mem_calls h
    cases configures_of_mem hu with
    | @act switch a hmlag =>
      rw [← List.mem_singleton.1 ha] at hmlag
      cases hmlag
    | configureMlag _ _ => simp [Step.actions] at ha
    | enableMlag hp hm => exact List.mem_flatMap.2 ⟨_, hp, List.mem_map_of_mem hm⟩
  · intro h
    obtain ⟨p, hp, hl⟩ := List.mem_flatMap.1 h
    obtain ⟨member, hmem, rfl⟩ := List.mem_map.1 hl
    obtain ⟨before, after, hpairs⟩ := List.append_of_mem hp
    obtain ⟨first, second, henable⟩ := List.append_of_mem
      (List.mem_map_of_mem (f := fun member => Step.whenMlag member.switch true [.enableMlag]) hmem)
    -- The pair's members are all configured before the first of them is enabled.
    let bring (member : MlagMember) : Step :=
      .whenMlag member.switch false [.configureMlag (member.params p.iplChannel)]
    let earlier := t.configureVlans ++ t.configureMtus ++ before.flatMap configurePair ++ p.members.map bring ++ first
    have hconfigure : t.configure = earlier ++ .whenMlag member.switch true [.enableMlag] ::
        (second ++ after.flatMap configurePair ++ t.configureChannels) := by
      rw [configure, configureMlag, hpairs, List.flatMap_append, List.flatMap_cons, configurePair, henable]
      simp [earlier, bring]
    have hbring : bring member ∈ earlier :=
      List.mem_append_left _ (List.mem_append_right _ (List.mem_map_of_mem hmem))
    have hquiet : ∀ u ∈ earlier, u.Quiet := fun u hu => by
      refine quiet_configure (t := t) ?_
      rw [hconfigure]
      exact List.mem_append_left _ hu
    refine Pass.mem_calls_iff.2 ⟨earlier, _, _, hconfigure, ?_⟩
    rw [Step.calls, if_pos (Pass.mlag_of_whenMlag hbring hquiet m)]
    simp

end Topology

end SwitchFabric
