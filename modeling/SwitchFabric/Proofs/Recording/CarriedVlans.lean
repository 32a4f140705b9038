import SwitchFabric.Proofs.Pass.Effects
import SwitchFabric.Proofs.Recording.FailStop
import SwitchFabric.Proofs.Recording.Undo
import SwitchFabric.Proofs.Switch.Carried
import SwitchFabric.Proofs.Topology.Channels

/-!
# VLANs exist while they are carried

Configuring creates the VLANs of a switch before its ports and its LAGs are told to carry them, and deletes none: its
actions are admitted whatever state the switch is in (`admitted_configure`). Deconfiguring brings no VLAN anywhere,
and takes all that the topology lists off the ports and the LAGs before it deletes the first: its actions are admitted
if nothing but what the topology lists carries VLANs (`admitted_deconfigure`), which both passes preserve
(`Within.replay`).

So a switch has all VLANs that its ports and LAGs carry at every point of passes over one topology, wherever each of
them ended (`History.invariant`). Recording switches record the calls of such passes (`carried_vlans_exist`).
-/

namespace SwitchFabric

open SwitchState (taken released brought)

namespace Topology

variable {t : Topology} {label : String} {as bs : List Action} {s : SwitchState} {v : VlanId}

/-! ## What the topology lists -/

theorem vlansOf_of_mem {ports : SortedMap Nat (List VlanId)} {port : Nat} {vlans : List VlanId}
    (hm : (label, ports) ∈ t.portVlans.entries) (hp : (port, vlans) ∈ ports.entries) :
    t.vlansOf label port = vlans := by
  rw [vlansOf, SortedMap.mem_entries_iff.1 hm, Option.bind_some, SortedMap.mem_entries_iff.1 hp, Option.getD_some]

theorem exists_mem_of_vlansOf {port : Nat} (h : v ∈ t.vlansOf label port) :
    ∃ ports vlans, (label, ports) ∈ t.portVlans.entries ∧ (port, vlans) ∈ ports.entries ∧ v ∈ vlans := by
  rw [vlansOf] at h
  cases hm : t.portVlans.get? label with
  | none => simp [hm] at h
  | some ports =>
    cases hp : ports.get? port with
    | none => simp [hm, hp] at h
    | some vlans =>
      exact ⟨ports, vlans, SortedMap.mem_entries_iff.2 hm, SortedMap.mem_entries_iff.2 hp, by simpa [hm, hp] using h⟩

theorem mem_lagGroups {ports : PortGroup} :
    ports ∈ t.lagGroups label ↔ ∃ g ∈ t.channelGroups, g.isMlag = false ∧ ∃ groups,
      (label, groups) ∈ g.members.entries ∧ ports ∈ groups := by
  rw [lagGroups, List.mem_flatMap]
  refine exists_congr fun g => and_congr_right fun _ => ?_
  cases g.isMlag with
  | true => simp
  | false =>
    rw [if_neg Bool.false_ne_true, ChannelGroup.groupsOf]
    cases hg : g.members.get? label <;> simp [SortedMap.mem_entries_iff, hg]

/-- The cell is no port's VLAN and no LAG, or one that the topology lists. -/
def Lists (t : Topology) (label : String) : SwitchState.Cell → Prop
  | .portVlan port v => v ∈ t.vlansOf label port
  | .lag channel => ∃ ports ∈ t.lagGroups label, channel = ports.channel
  | _ => True

/-- Only what the topology lists carries VLANs. -/
def Within (t : Topology) (label : String) (s : SwitchState) : Prop := ∀ c, ¬ t.Lists label c → s.Blank c

theorem lists_of_taken_configure {u : Step} (hu : u ∈ t.configure) {a : Action} (ha : a ∈ u.actions)
    {c : SwitchState.Cell} (hc : c ∈ taken a) : t.Lists u.switch c := by
  rw [configure, List.mem_append, List.mem_append, List.mem_append] at hu
  rcases hu with ((hu | hu) | hu) | hu
  · obtain ⟨switch, ports, port, vlans, hm, hp, ⟨v, -, rfl⟩ | rfl | rfl⟩ := mem_configureVlans hu
    · obtain rfl := List.mem_singleton.1 ha
      obtain rfl := List.mem_singleton.1 hc
      trivial
    · obtain rfl := List.mem_singleton.1 ha
      obtain rfl := List.mem_singleton.1 hc
      trivial
    · obtain rfl := List.mem_singleton.1 ha
      obtain ⟨v, hv, rfl⟩ := List.mem_map.1 hc
      show v ∈ t.vlansOf switch port
      rw [vlansOf_of_mem hm hp]
      exact hv
  · obtain ⟨switch, mtus, mtu, ports, -, -, port, -, rfl⟩ := mem_configureMtus hu
    obtain rfl := List.mem_singleton.1 ha
    rw [taken] at hc
    split at hc
    · cases hc
    · rw [List.mem_singleton.1 hc]
      trivial
  · obtain ⟨p, -, m, -, rfl | rfl⟩ := mem_configureMlag hu <;>
    · obtain rfl := List.mem_singleton.1 ha
      rw [List.mem_singleton.1 hc]
      trivial
  · obtain ⟨g, hg, switch, groups, hm, b, hb, rfl⟩ := mem_configureChannels hu
    obtain rfl := List.mem_singleton.1 ha
    obtain ⟨-, ports, i, -, rfl⟩ | ⟨hlag, ports, hports, rfl⟩ := taken_configureMember hb hc
    · trivial
    · exact ⟨ports, mem_lagGroups.2 ⟨g, hg, hlag, groups, hm, hports⟩, rfl⟩

/-- Passes over the topology take nothing else. -/
theorem Within.replay (h : t.Within label s) {pass : List Step} (hpass : pass ∈ [t.configure, t.deconfigure])
    (hdoes : Pass.Does label pass as) (hbs : bs <+: as) : t.Within label (s.replay bs) := by
  intro c hc
  refine SwitchState.blank_replay (h c hc) fun a ha htaken => hc ?_
  obtain ⟨u, hu, rfl, ha⟩ := hdoes.exists_step (hbs.subset ha)
  rcases List.mem_pair.1 hpass with rfl | rfl
  · exact lists_of_taken_configure hu ha htaken
  · rw [taken_of_mem_deconfigure hu ha] at htaken
    cases htaken

theorem within_empty (t : Topology) (label : String) : t.Within label .empty :=
  fun c _ => SwitchState.eq_empty_iff.1 rfl c

/-! ## Configuring -/

/-- What is done on the switch itself to trunk VLANs onto its ports. -/
theorem actions_trunkPorts (label : String) (created : List VlanId) (port : Nat) (vlans : List VlanId)
    (ports : List (Nat × List VlanId)) :
    (trunkPorts label created ((port, vlans) :: ports)).filterMap (Step.actionAt? label) =
      (newVlans created vlans).map .createVlan ++ [.setSwitchportMode port .trunk, .addVlansToPort port vlans] ++
        (trunkPorts label (created ++ newVlans created vlans) ports).filterMap (Step.actionAt? label) := by
  simp [trunkPorts, Step.actionAt?, List.filterMap_map, Function.comp_def]

/-- VLANs are created before ports carry them, by induction on the ports: those created so far are there. -/
theorem admitted_trunkPorts (ports : List (Nat × List VlanId)) {created : List VlanId}
    (hcreated : ∀ v ∈ created, s.vlans v = true) :
    s.Admitted ((trunkPorts label created ports).filterMap (Step.actionAt? label)) := by
  induction ports generalizing created s with
  | nil => trivial
  | cons e ports ih =>
    obtain ⟨port, vlans⟩ := e
    rw [actions_trunkPorts, SwitchState.admitted_append, SwitchState.admitted_append]
    have hthere : ∀ v, v ∈ created ∨ v ∈ newVlans created vlans →
        (s.replay ((newVlans created vlans).map .createVlan)).vlans v = true := by
      intro v hv
      rcases hv with hv | hv
      · exact SwitchState.vlans_replay (hcreated v hv) (by simp)
      · exact SwitchState.vlans_replay_of_created (List.mem_map_of_mem hv) (by simp)
    refine ⟨⟨?_, ?_⟩, ih fun v hv => ?_⟩
    · exact SwitchState.admitted_of_created (by simp [brought]) (by simp)
    · refine SwitchState.admitted_of_created ?_ (by simp)
      intro a ha v hv
      rcases List.mem_pair.1 ha with rfl | rfl
      · cases hv
      · refine hthere v ?_
        by_cases hc : v ∈ created
        · exact .inl hc
        · exact .inr (mem_newVlans.2 ⟨hv, hc⟩)
    · rw [SwitchState.replay_append]
      exact SwitchState.vlans_replay (hthere v (List.mem_append.1 hv)) (by simp)

/-- All VLANs of the ports are created. -/
theorem createVlan_mem_trunkPorts {ports : List (Nat × List VlanId)} {created : List VlanId} {port : Nat}
    {vlans : List VlanId} (hp : (port, vlans) ∈ ports) (hv : v ∈ vlans) :
    v ∈ created ∨ .act label (.createVlan v) ∈ trunkPorts label created ports := by
  induction ports generalizing created with
  | nil => cases hp
  | cons e ports ih =>
    rw [trunkPorts, List.mem_append, List.mem_cons, List.mem_cons]
    rcases List.mem_cons.1 hp with rfl | hp
    · by_cases hc : v ∈ created
      · exact .inl hc
      · exact .inr (.inl (List.mem_map.2 ⟨v, mem_newVlans.2 ⟨hv, hc⟩, rfl⟩))
    · rcases @ih (created ++ newVlans created e.2) hp with h | h
      · refine (List.mem_append.1 h).imp_right fun h => .inl ?_
        exact List.mem_map.2 ⟨v, h, rfl⟩
      · exact .inr (.inr (.inr (.inr h)))

theorem createVlan_mem_configureVlans {port : Nat} (h : v ∈ t.vlansOf label port) :
    .act label (.createVlan v) ∈ t.configureVlans := by
  obtain ⟨ports, vlans, hm, hp, hv⟩ := exists_mem_of_vlansOf h
  refine List.mem_flatMap.2 ⟨_, hm, ?_⟩
  exact (createVlan_mem_trunkPorts hp hv).resolve_left List.not_mem_nil

/-- Configuring deletes no VLAN. -/
theorem deleteVlan_notMem_configure {u : Step} (hu : u ∈ t.configure) (v : VlanId) : .deleteVlan v ∉ u.actions := by
  intro hd
  rw [configure, List.mem_append, List.mem_append, List.mem_append] at hu
  rcases hu with ((hu | hu) | hu) | hu
  · obtain ⟨switch, ports, port, vlans, -, -, ⟨v, -, rfl⟩ | rfl | rfl⟩ := mem_configureVlans hu <;>
      simp [Step.actions] at hd
  · obtain ⟨switch, mtus, mtu, ports, -, -, port, -, rfl⟩ := mem_configureMtus hu
    simp [Step.actions] at hd
  · obtain ⟨p, -, m, -, rfl | rfl⟩ := mem_configureMlag hu <;> simp [Step.actions] at hd
  · obtain ⟨switch, a, rfl, hchannel⟩ := exists_act_of_configureChannels hu
    obtain rfl := List.mem_singleton.1 hd
    cases hchannel

/-- After the VLANs, configuring puts onto LAGs only VLANs of the switch's ports. -/
theorem brought_configure {u : Step} (hu : u ∈ t.configureMtus ++ t.configureMlag ++ t.configureChannels) {a : Action}
    (ha : a ∈ u.actions) (hv : v ∈ brought a) : ∃ port, v ∈ t.vlansOf u.switch port := by
  rw [List.mem_append, List.mem_append] at hu
  rcases hu with (hu | hu) | hu
  · obtain ⟨switch, mtus, mtu, ports, -, -, port, -, rfl⟩ := mem_configureMtus hu
    obtain rfl := List.mem_singleton.1 ha
    cases hv
  · obtain ⟨p, -, m, -, rfl | rfl⟩ := mem_configureMlag hu <;>
    · obtain rfl := List.mem_singleton.1 ha
      cases hv
  · obtain ⟨g, -, switch, groups, -, b, hb, rfl⟩ := mem_configureChannels hu
    obtain rfl := List.mem_singleton.1 ha
    obtain ⟨-, ports, i, -, hb⟩ | ⟨-, ports, -, hb⟩ := mem_configureMember hb
    · rcases mem_configureMlagChannel.1 hb with rfl | rfl | ⟨-, rfl⟩ | ⟨mtu, -, rfl⟩ | ⟨port, -, rfl⟩ <;> cases hv
    · rcases mem_configureLagChannel.1 hb with rfl | rfl | ⟨-, rfl⟩ | ⟨mtu, -, rfl⟩ | rfl
      · cases hv
      · cases hv
      · exact ⟨ports.channel, hv⟩
      · cases hv
      · cases hv

/-- What configuring does on a switch about VLANs. -/
theorem does_configureVlans (h : Pass.Does label t.configureVlans as) :
    as = ((t.portVlans.get? label).map fun ports =>
      (trunkPorts label [] ports.entries).filterMap (Step.actionAt? label)).getD [] := by
  have hacts : ∀ u ∈ t.configureVlans, ∃ switch a, u = .act switch a := by
    intro u hu
    obtain ⟨switch, ports, port, vlans, -, -, ⟨v, -, rfl⟩ | rfl | rfl⟩ := mem_configureVlans hu <;>
      exact ⟨_, _, rfl⟩
  rw [h.eq_of_acts hacts, ← SortedMap.flatMap_entries, configureVlans, List.filterMap_flatMap]
  refine List.flatMap_congr fun e _ => ?_
  by_cases hlabel : e.1 = label
  · rw [if_pos hlabel, ← hlabel]
  · rw [if_neg hlabel]
    refine List.filterMap_eq_nil_iff.2 fun u hu => ?_
    obtain ⟨port, vlans, -, ⟨v, -, rfl⟩ | rfl | rfl⟩ := mem_trunkPorts hu <;> exact if_neg hlabel

theorem admitted_configure (h : Pass.Does label t.configure as) : s.Admitted as := by
  rw [configure, List.append_assoc, List.append_assoc] at h
  obtain ⟨bs, cs, rfl, hvlans, hrest⟩ := h.of_append
  rw [SwitchState.admitted_append]
  have hdelete : ∀ a ∈ bs ++ cs, ∀ v, a ≠ .deleteVlan v := by
    rintro a ha v rfl
    obtain ⟨u, hu, -, hd⟩ := h.exists_step ha
    refine deleteVlan_notMem_configure (t := t) (u := u) ?_ v hd
    rw [configure, List.append_assoc, List.append_assoc]
    exact hu
  constructor
  · rw [does_configureVlans hvlans]
    cases t.portVlans.get? label with
    | none => trivial
    | some ports => exact admitted_trunkPorts ports.entries (by simp)
  · refine SwitchState.admitted_of_created (fun a ha v hv => ?_)
      fun v hv => hdelete _ (List.mem_append_right _ hv) v rfl
    obtain ⟨u, hu, rfl, ha⟩ := hrest.exists_step ha
    rw [← List.append_assoc] at hu
    obtain ⟨port, hport⟩ := brought_configure hu ha hv
    refine SwitchState.vlans_replay_of_created (hvlans.mem_of_act (createVlan_mem_configureVlans hport)) ?_
    exact fun hd => hdelete _ (List.mem_append_left _ hd) v rfl

/-! ## Deconfiguring -/

/-- Take all ports off their VLANs and back to access mode. -/
def releaseAllPorts (t : Topology) : List Step :=
  t.portVlans.entries.flatMap fun (switch, ports) => releasePorts switch ports.entries

/-- Delete each VLAN of a switch once. -/
def deleteVlans (t : Topology) : List Step :=
  t.portVlans.entries.flatMap fun (switch, ports) =>
    (newVlans [] ports.values.flatten).map fun v => .act switch (.deleteVlan v)

/-- Nothing is deleted before all ports are off their VLANs. -/
theorem deconfigure_eq_releases (t : Topology) :
    t.deconfigure =
      (t.deconfigureChannels ++ t.deconfigureMlag ++ t.releaseAllPorts) ++ (t.deleteVlans ++ t.deconfigureMtus) := by
  rw [deconfigure, deconfigureVlans]
  simp only [List.append_assoc]
  rfl

theorem deleteVlan_notMem_releases {u : Step}
    (hu : u ∈ t.deconfigureChannels ++ t.deconfigureMlag ++ t.releaseAllPorts) (v : VlanId) :
    .deleteVlan v ∉ u.actions := by
  intro hd
  rw [List.mem_append, List.mem_append] at hu
  rcases hu with (hu | hu) | hu
  · cases isChannel_of_deconfigureChannels hu hd
  · rw [deconfigureMlag_eq] at hu
    obtain ⟨label, -, rfl⟩ := List.mem_map.1 hu
    simp [teardownStep, Step.actions] at hd
  · obtain ⟨⟨switch, ports⟩, -, hu⟩ := List.mem_flatMap.1 hu
    obtain ⟨⟨port, vlans⟩, -, hu⟩ := List.mem_flatMap.1 hu
    rcases List.mem_append.1 hu with hu | hu
    · obtain ⟨w, -, rfl⟩ := List.mem_map.1 hu
      simp [Step.actions] at hd
    · rw [List.mem_singleton.1 hu] at hd
      simp [Step.actions] at hd

/-- Deconfiguring brings no VLANs. -/
theorem brought_deconfigure {u : Step} (hu : u ∈ t.deconfigure) {a : Action} (ha : a ∈ u.actions) :
    brought a = [] := by
  have htaken := taken_of_mem_deconfigure hu ha
  cases a with
  | addVlansToPort port vlans => simpa [taken, brought] using htaken
  | addVlansToLagPortChannel => cases htaken
  | _ => rfl

/-- What the topology lists carries no VLAN any more once it is released, and nothing else did. -/
theorem not_carries_of_released (hw : t.Within label s)
    (h : Pass.Does label (t.deconfigureChannels ++ t.deconfigureMlag ++ t.releaseAllPorts) as)
    (hfree : ∀ a ∈ as, taken a = []) (v : VlanId) : ¬ (s.replay as).Carries v := by
  have hblank : ∀ c, (t.Lists label c → ∃ a ∈ as, c ∈ released a) → (s.replay as).Blank c := by
    intro c hc
    have hnot : ∀ a ∈ as, c ∉ taken a := fun a ha hm => by
      rw [hfree a ha] at hm
      cases hm
    by_cases hlist : t.Lists label c
    · exact SwitchState.blank_replay_of_released s hnot (hc hlist)
    · exact SwitchState.blank_replay (hw c hlist) hnot
  refine SwitchState.not_carries (fun port => hblank _ fun hv => ?_) fun channel => hblank _ fun hlag => ?_
  · obtain ⟨ports, vlans, hm, hp, hv⟩ := exists_mem_of_vlansOf hv
    refine ⟨.removeVlansFromPort port [v], h.mem_of_act ?_, List.mem_cons_self⟩
    refine List.mem_append_right _ (List.mem_flatMap.2 ⟨_, hm, List.mem_flatMap.2 ⟨_, hp, ?_⟩⟩)
    exact List.mem_append_left _ (List.mem_map.2 ⟨v, hv, rfl⟩)
  · obtain ⟨ports, hports, rfl⟩ := hlag
    obtain ⟨g, hg, hplain, groups, hm, hports⟩ := mem_lagGroups.1 hports
    refine ⟨.removeLagInterface ports.channel, h.mem_of_act ?_, List.mem_cons_self⟩
    refine List.mem_append_left _ (List.mem_append_left _ ?_)
    exact (mem_deconfigureChannels_of_mem hg hm).2 hplain ports hports

theorem admitted_deconfigure (h : Pass.Does label t.deconfigure as) (hw : t.Within label s) : s.Admitted as := by
  have htaken : ∀ a ∈ as, taken a = [] := fun a ha => by
    obtain ⟨u, hu, -, ha⟩ := h.exists_step ha
    exact taken_of_mem_deconfigure hu ha
  have hbrought : ∀ a ∈ as, brought a = [] := fun a ha => by
    obtain ⟨u, hu, -, ha⟩ := h.exists_step ha
    exact brought_deconfigure hu ha
  rw [deconfigure_eq_releases] at h
  obtain ⟨bs, cs, rfl, hreleases, hdeletes⟩ := h.of_append
  obtain ⟨hbs, hcs⟩ := List.forall_mem_append.1 hbrought
  rw [SwitchState.admitted_append]
  constructor
  · refine SwitchState.admitted_of_created (fun a ha v hv => ?_) fun v hd => ?_
    · rw [hbs a ha] at hv
      cases hv
    · obtain ⟨u, hu, -, hd⟩ := hreleases.exists_step hd
      exact deleteVlan_notMem_releases hu v hd
  · refine SwitchState.admitted_of_idle hcs ?_
    exact not_carries_of_released hw hreleases (List.forall_mem_append.1 htaken).1

/-! ## Passes one after the other -/

/-- The events of passes over the topology, one after the other: with any drivers, which may fail at any call, and any
operators, who may answer anything or nothing. -/
inductive History (t : Topology) : List Event → Prop where
  | nil : History t []
  | append {es : List Event} {σ π : Type} (f : Fleet σ) (o : Operator π) {pass : List Step} (s : PassState σ π) :
    History t es → pass ∈ [t.configure, t.deconfigure] → History t (es ++ Pass.events f o t pass s)

/-- What a pass has done to a switch at some point is a start of what its steps can do. -/
theorem exists_does_of_prefix {σ π : Type} (f : Fleet σ) (o : Operator π) (pass : List Step) (s : PassState σ π)
    (label : String) {es : List Event} (hes : es <+: Pass.events f o t pass s) :
    ∃ as, Pass.Does label pass as ∧ effects label es <+: as := by
  cases h : Pass.missingDriver f t.switches s.fleet with
  | some missing =>
    rw [Pass.events_of_missing f o h, List.prefix_nil] at hes
    obtain ⟨as, has⟩ := Pass.does_all label pass
    exact ⟨as, has, by rw [hes]; exact List.nil_prefix⟩
  | none =>
    rw [Pass.events_of_covered f o h] at hes
    obtain ⟨as, has, hstart, -⟩ := Pass.exists_does f o label pass s
    exact ⟨as, has, (hes.filterMap _).trans hstart⟩

/-- What is preserved from pass to pass, and holds at each point of them. -/
theorem History.invariant {es : List Event} (h : t.History es) (label : String) :
    ∀ before, before <+: es →
      t.Within label (SwitchState.empty.replay (effects label before)) ∧
        (SwitchState.empty.replay (effects label before)).CarriedExist := by
  induction h with
  | nil =>
    intro before hbefore
    rw [List.prefix_nil.1 hbefore]
    exact ⟨within_empty t label, SwitchState.carriedExist_empty⟩
  | @append es σ π f o pass s h hpass ih =>
    intro before hbefore
    rcases List.prefix_or_prefix_of_prefix hbefore (List.prefix_append es _) with hearlier | ⟨rest, rfl⟩
    · exact ih before hearlier
    -- The last pass has come as far as `rest`, and all passes before it are over.
    have hrest : rest <+: Pass.events f o t pass s := (List.prefix_append_right_inj es).1 hbefore
    obtain ⟨hwithin, hexist⟩ := ih es (List.prefix_refl es)
    obtain ⟨as, has, hstart⟩ := exists_does_of_prefix f o pass s label hrest
    rw [effects_append, SwitchState.replay_append]
    refine ⟨hwithin.replay hpass has hstart, SwitchState.carriedExist_of_prefix hexist ?_ hstart⟩
    rcases List.mem_pair.1 hpass with rfl | rfl
    · exact admitted_configure has
    · exact admitted_deconfigure has hwithin

end Topology

namespace Recording

/-- Passes over a topology on recording switches, one after the other. Before each of them a method of each switch may
be made to fail, and the operator is given new answers. -/
inductive Session {π : Type} (o : Operator π) (t : Topology) : Recording → List Event → Prop where
  | start (switches : SortedMap String RecordingSwitch) : Session o t (start switches) []
  | pass {r : Recording} {es : List Event} {pass : List Step} (failing : String → Option String) (operator : π) :
    Session o t r es → pass ∈ [t.configure, t.deconfigure] →
      Session o t (Pass.run fleet o t pass ⟨⟨inject failing r.switches, r.log⟩, operator⟩).2.fleet
        (es ++ Pass.events fleet o t pass ⟨⟨inject failing r.switches, r.log⟩, operator⟩)

variable {π : Type} (o : Operator π)

theorem Session.log {o : Operator π} {t : Topology} {r : Recording} {es : List Event} (h : Session o t r es) :
    r.log = es.filterMap Event.call? := by
  induction h with
  | start => rfl
  | pass failing operator _ _ ih => rw [log_pass, List.filterMap_append, ← ih]

theorem Session.history {o : Operator π} {t : Topology} {r : Recording} {es : List Event} (h : Session o t r es) :
    t.History es := by
  induction h with
  | start => exact .nil
  | pass failing operator _ hpass ih => exact ih.append fleet o _ hpass

/-- VLANs exist while they are carried. At every point of passes over one topology, wherever each of them ended, the
calls that have succeeded leave each switch with all VLANs that its ports and its LAGs carry. So it is on recording
switches, whose log has the calls of such passes. -/
theorem carried_vlans_exist (t : Topology) :
    (∀ es, t.History es → ∀ before, before <+: es → ∀ label,
      (SwitchState.empty.replay (effects label before)).CarriedExist) ∧
    ∀ r es, Session o t r es → t.History es ∧ r.log = es.filterMap Event.call? :=
  ⟨fun _ h before hbefore label => (h.invariant label before hbefore).2, fun _ _ h => ⟨h.history, h.log⟩⟩

/-- A LAG is configured up to the binding of its ports, deconfigured up to the deletion of its VLAN, and configured to
the end. -/
theorem carried_vlans_exist_singleLag :
    let t := Scenario.singleLag.topology
    ∃ r es, Session Script.operator t r es ∧ r.log = es.filterMap Event.call? ∧
      (effects "data_1" es).length = 22 ∧
      ∀ before, before <+: es → (SwitchState.empty.replay (effects "data_1" before)).CarriedExist := by
  intro t
  obtain ⟨hexist, hlog⟩ := carried_vlans_exist Script.operator t
  have hconfigure : t.configure ∈ [t.configure, t.deconfigure] := List.mem_cons_self
  have hdeconfigure : t.deconfigure ∈ [t.configure, t.deconfigure] :=
    List.mem_cons_of_mem _ (List.mem_singleton_self _)
  have hsession := (((Session.start (o := Script.operator) (SortedMap.ofList [("data_1", .plain)])).pass
    (fun _ => some "bind_ports_to_lag_interface") ⟨[], []⟩ hconfigure).pass
    (fun _ => some "delete_vlan") ⟨[], []⟩ hdeconfigure).pass (fun _ => none) ⟨[], []⟩ hconfigure
  obtain ⟨hhistory, hcalls⟩ := hlog _ _ hsession
  exact ⟨_, _, hsession, hcalls, by decide +kernel, fun before hbefore => hexist _ hhistory before hbefore "data_1"⟩

end Recording

end SwitchFabric
