import SwitchFabric.Proofs.Pass.Completed
import SwitchFabric.Proofs.Pass.Share
import SwitchFabric.Proofs.Recording.CarriedVlans

/-!
# The calls for VLANs

Configuring creates each VLAN of a switch once, where the ports first have it, and trunks the ports in their order
(`Trunked`, `trunked_of_does`). Deconfiguring takes the VLANs off the ports and deletes each of them once (`Released`,
`released_of_does`). That a VLAN is created before a port is told to carry it follows from `admitted_configure`: a switch
without VLANs has none that is not created.

In the log of all switches a port is given its VLANs right after its mode (`ModesFollowed`), and nothing is deleted before
all ports of all switches are released: `vlan_calls_once`.
-/

namespace SwitchFabric

open Recording (actionsOn)

namespace Action

/-- The VLAN that the action creates. -/
def created? : Action → Option VlanId
  | createVlan v => some v
  | _ => none

/-- The VLAN that the action deletes. -/
def deleted? : Action → Option VlanId
  | deleteVlan v => some v
  | _ => none

/-- The action changes the mode of a port, or the VLANs that the port carries. -/
def isPortVlan : Action → Bool
  | setSwitchportMode .. | addVlansToPort .. | removeVlansFromPort .. => true
  | _ => false

/-- The action is about the VLANs of a switch or of its ports. -/
def isVlan : Action → Bool
  | createVlan _ | deleteVlan _ => true
  | a => a.isPortVlan

theorem isPortVlan_of_not_isVlan {a : Action} (h : a.isVlan = false) : a.isPortVlan = false := by
  cases a <;> first | rfl | cases h

theorem isVlan_of_isChannel {a : Action} (h : a.isChannel = true) : a.isVlan = false := by
  cases a <;> first | rfl | cases h

/-- Actions that are not about VLANs create none, delete none and change none on ports. -/
theorem nothing_of_not_isVlan {as : List Action} (h : ∀ a ∈ as, a.isVlan = false) :
    as.filterMap created? = [] ∧ as.filterMap deleted? = [] ∧ as.filter isPortVlan = [] := by
  refine ⟨List.filterMap_eq_nil_iff.2 fun a ha => ?_, List.filterMap_eq_nil_iff.2 fun a ha => ?_,
    List.filter_eq_nil_iff.2 fun a ha => ?_⟩
  · have hvlan := h a ha
    cases a <;> first | rfl | cases hvlan
  · have hvlan := h a ha
    cases a <;> first | rfl | cases hvlan
  · rw [isPortVlan_of_not_isVlan (h a ha)]
    exact Bool.false_ne_true

end Action

/-! ## First occurrences -/

/-- The VLANs of a list, each once, in the order in which they first occur. -/
structure FirstOccurrences (vlans firsts : List VlanId) : Prop where
  once : ∀ v, firsts.count v = if v ∈ vlans then 1 else 0
  ordered : firsts.Pairwise fun v w => vlans.idxOf v < vlans.idxOf w

namespace Topology

theorem newVlans_congr {seen seen' : List VlanId} (h : ∀ v, v ∈ seen ↔ v ∈ seen') (vlans : List VlanId) :
    newVlans seen vlans = newVlans seen' vlans := by
  induction vlans generalizing seen seen' with
  | nil => rfl
  | cons v vlans ih =>
    have hcons : ∀ w, w ∈ v :: seen ↔ w ∈ v :: seen' := fun w => by rw [List.mem_cons, List.mem_cons, h]
    have hseen : seen.contains v = seen'.contains v := by
      rw [Bool.eq_iff_iff, List.contains_iff_mem, List.contains_iff_mem, h]
    rw [newVlans, newVlans, hseen, ih h, ih hcons]

theorem newVlans_append (seen vlans others : List VlanId) :
    newVlans seen (vlans ++ others) = newVlans seen vlans ++ newVlans (seen ++ newVlans seen vlans) others := by
  induction vlans generalizing seen with
  | nil => rw [newVlans, List.nil_append, List.nil_append, List.append_nil]
  | cons v vlans ih =>
    rw [List.cons_append, newVlans, newVlans]
    split
    · exact ih seen
    · rw [ih, List.cons_append]
      refine congrArg _ (congrArg _ (newVlans_congr (fun w => ?_) others))
      simp only [List.mem_append, List.mem_cons, or_left_comm]

theorem nodup_newVlans (seen vlans : List VlanId) : (newVlans seen vlans).Nodup := by
  induction vlans generalizing seen with
  | nil => exact List.nodup_nil
  | cons v vlans ih =>
    rw [newVlans]
    split
    · exact ih seen
    · exact List.nodup_cons.2 ⟨fun hv => (mem_newVlans.1 hv).2 List.mem_cons_self, ih (v :: seen)⟩

theorem pairwise_idxOf_newVlans (seen vlans : List VlanId) :
    (newVlans seen vlans).Pairwise fun v w => vlans.idxOf v < vlans.idxOf w := by
  -- an element that is not the first one stands one place further on
  have hshift {u : VlanId} {seen rest : List VlanId} (hu : u ∈ seen)
      (h : (newVlans seen rest).Pairwise fun v w => rest.idxOf v < rest.idxOf w) :
      (newVlans seen rest).Pairwise fun v w => (u :: rest).idxOf v < (u :: rest).idxOf w := by
    refine h.imp_of_mem fun {v w} hv hw hlt => ?_
    have hne {x : VlanId} (hx : x ∈ newVlans seen rest) : u ≠ x := fun heq => (mem_newVlans.1 hx).2 (heq ▸ hu)
    rw [List.idxOf_cons_ne _ (hne hv), List.idxOf_cons_ne _ (hne hw)]
    exact Nat.succ_lt_succ hlt
  induction vlans generalizing seen with
  | nil => exact .nil
  | cons v vlans ih =>
    rw [newVlans]
    split
    · next hseen => exact hshift (List.contains_iff_mem.1 hseen) (ih seen)
    · refine List.pairwise_cons.2 ⟨fun w hw => ?_, hshift List.mem_cons_self (ih (v :: seen))⟩
      have hne : v ≠ w := fun heq => (mem_newVlans.1 hw).2 (heq ▸ List.mem_cons_self)
      rw [List.idxOf_cons_self, List.idxOf_cons_ne _ hne]
      exact Nat.succ_pos _

theorem firstOccurrences_newVlans (vlans : List VlanId) : FirstOccurrences vlans (newVlans [] vlans) := by
  refine ⟨fun v => ?_, pairwise_idxOf_newVlans [] vlans⟩
  split
  · next hv =>
    exact List.count_eq_one_of_mem (nodup_newVlans [] vlans) (mem_newVlans.2 ⟨hv, List.not_mem_nil⟩)
  · next hv => exact List.count_eq_zero.2 fun h => hv (mem_newVlans.1 h).1

end Topology

/-! ## One switch -/

/-- The actions trunk VLANs onto ports: each VLAN of the ports is created once, in the order in which the ports first have
it, and before a port is told to carry it; and the ports are set to trunk mode and told to carry their VLANs, in their
order. -/
structure Trunked (ports : List (Nat × List VlanId)) (as : List Action) : Prop where
  creates : FirstOccurrences (ports.flatMap Prod.snd) (as.filterMap Action.created?)
  createsFirst : ∀ before port vlans after, as = before ++ .addVlansToPort port vlans :: after →
    ∀ v ∈ vlans, .createVlan v ∈ before
  onPorts : as.filter Action.isPortVlan = ports.flatMap fun e => [.setSwitchportMode e.1 .trunk, .addVlansToPort e.1 e.2]

/-- The actions release ports: the VLANs are taken off each port one by one, and the port is then set to access mode, in
the order of the ports; and each VLAN is deleted once, in the order in which the ports first have it. -/
structure Released (ports : List (Nat × List VlanId)) (as : List Action) : Prop where
  onPorts : as.filter Action.isPortVlan = ports.flatMap fun e =>
    e.2.map (fun v => .removeVlansFromPort e.1 [v]) ++ [.setSwitchportMode e.1 .access]
  deletes : FirstOccurrences (ports.flatMap Prod.snd) (as.filterMap Action.deleted?)

/-- A VLAN that a switch has come to have was created. -/
theorem SwitchState.createVlan_mem_of_vlans {as : List Action} {v : VlanId} (h : (empty.replay as).vlans v = true) :
    .createVlan v ∈ as := by
  by_contra hnot
  have hblank : (empty.replay as).vlans v = false := by
    refine blank_replay (c := .vlan v) rfl fun a ha htaken => ?_
    cases a with
    | createVlan w =>
      obtain rfl := Cell.vlan.inj (List.mem_singleton.1 htaken)
      exact hnot ha
    | setMtuForPort port mtu =>
      rw [taken] at htaken
      split at htaken <;> simp at htaken
    | _ => simp [taken] at htaken
  rw [hblank] at h
  cases h

namespace Topology

variable {t : Topology} {label : String} {as : List Action} {u : Step}

/-! ### Configuring -/

/-- After the VLANs, configuring does nothing about VLANs of ports. -/
theorem not_isVlan_of_configure (hu : u ∈ t.configureMtus ++ (t.configureMlag ++ t.configureChannels)) {a : Action}
    (ha : a ∈ u.actions) : a.isVlan = false := by
  rw [List.mem_append, List.mem_append] at hu
  rcases hu with hu | hu | hu
  · obtain ⟨switch, mtus, mtu, ports, -, -, port, -, rfl⟩ := mem_configureMtus hu
    rw [List.mem_singleton.1 ha]
    rfl
  · obtain ⟨p, -, m, -, rfl | rfl⟩ := mem_configureMlag hu <;>
    · rw [List.mem_singleton.1 ha]
      rfl
  · obtain ⟨switch, b, rfl, hchannel⟩ := exists_act_of_configureChannels hu
    rw [List.mem_singleton.1 ha]
    exact Action.isVlan_of_isChannel hchannel

/-- What is done on a switch by steps that are not about VLANs does not count. -/
theorem not_isVlan_of_does {us : List Step} (h : Pass.Does label us as)
    (hus : ∀ u ∈ us, ∀ a ∈ u.actions, a.isVlan = false) : ∀ a ∈ as, a.isVlan = false := by
  intro a ha
  obtain ⟨u, hu, -, ha⟩ := h.exists_step ha
  exact hus u hu a ha

theorem created_trunkPorts (label : String) (created : List VlanId) (ports : List (Nat × List VlanId)) :
    ((trunkPorts label created ports).filterMap (Step.actionAt? label)).filterMap Action.created? =
      newVlans created (ports.flatMap Prod.snd) := by
  induction ports generalizing created with
  | nil => rfl
  | cons e ports ih =>
    obtain ⟨port, vlans⟩ := e
    rw [actions_trunkPorts, List.filterMap_append, List.filterMap_append, ih, List.flatMap_cons, newVlans_append]
    simp [List.filterMap_map, Function.comp_def, Action.created?]

theorem isPortVlan_trunkPorts (label : String) (created : List VlanId) (ports : List (Nat × List VlanId)) :
    ((trunkPorts label created ports).filterMap (Step.actionAt? label)).filter Action.isPortVlan =
      ports.flatMap fun e => [.setSwitchportMode e.1 .trunk, .addVlansToPort e.1 e.2] := by
  induction ports generalizing created with
  | nil => rfl
  | cons e ports ih =>
    obtain ⟨port, vlans⟩ := e
    have hcreates : ((newVlans created vlans).map Action.createVlan).filter Action.isPortVlan = [] := by
      simp [List.filter_map, Function.comp_def, Action.isPortVlan]
    rw [actions_trunkPorts, List.filter_append, List.filter_append, ih, hcreates, List.flatMap_cons]
    rfl

/-- What a view has of a switch without an entry is nothing. -/
theorem getD_map_portVlans {β : Type} (f : List (Nat × List VlanId) → List β) (hf : f [] = []) :
    ((t.portVlans.get? label).map fun ports => f ports.entries).getD [] = f (t.share label).portVlans.entries := by
  rw [share]
  cases t.portVlans.get? label with
  | none => exact hf.symm
  | some ports => rfl

theorem trunked_of_does (h : Pass.Does label t.configure as) : Trunked (t.share label).portVlans.entries as := by
  have hadmitted : SwitchState.empty.Admitted as := admitted_configure h
  rw [configure, List.append_assoc, List.append_assoc] at h
  obtain ⟨bs, cs, rfl, hvlans, hrest⟩ := h.of_append
  have hbs : bs = (trunkPorts label [] (t.share label).portVlans.entries).filterMap (Step.actionAt? label) :=
    (does_configureVlans hvlans).trans
      (getD_map_portVlans (fun ports => (trunkPorts label [] ports).filterMap (Step.actionAt? label)) rfl)
  obtain ⟨hcreates, -, hports⟩ :=
    Action.nothing_of_not_isVlan (not_isVlan_of_does hrest fun u hu a => not_isVlan_of_configure hu)
  refine ⟨?_, fun before port vlans after heq v hv => ?_, ?_⟩
  · rw [List.filterMap_append, hcreates, List.append_nil, hbs, created_trunkPorts]
    exact firstOccurrences_newVlans _
  · rw [heq, SwitchState.admitted_append] at hadmitted
    exact SwitchState.createVlan_mem_of_vlans (hadmitted.2.1.1 v hv)
  · rw [List.filter_append, hports, List.append_nil, hbs, isPortVlan_trunkPorts]

/-! ### Deconfiguring -/

/-- What releases ports of a switch. -/
def releaseActions (ports : List (Nat × List VlanId)) : List Action :=
  ports.flatMap fun e => e.2.map (fun v => .removeVlansFromPort e.1 [v]) ++ [.setSwitchportMode e.1 .access]

theorem releasePorts_eq (switch : String) (ports : List (Nat × List VlanId)) :
    releasePorts switch ports = (releaseActions ports).map (.act switch) := by
  rw [releasePorts, releaseActions, List.map_flatMap]
  simp [Function.comp_def]

theorem isPortVlan_of_mem_releaseActions {ports : List (Nat × List VlanId)} {a : Action}
    (h : a ∈ releaseActions ports) : a.isPortVlan = true := by
  obtain ⟨e, -, h⟩ := List.mem_flatMap.1 h
  rcases List.mem_append.1 h with h | h
  · obtain ⟨v, -, rfl⟩ := List.mem_map.1 h
    rfl
  · rw [List.mem_singleton.1 h]
    rfl

theorem filter_releaseActions (ports : List (Nat × List VlanId)) :
    (releaseActions ports).filterMap Action.deleted? = [] ∧
      (releaseActions ports).filter Action.isPortVlan = releaseActions ports := by
  refine ⟨List.filterMap_eq_nil_iff.2 fun a ha => ?_, List.filter_eq_self.2 fun a => isPortVlan_of_mem_releaseActions⟩
  have hport := isPortVlan_of_mem_releaseActions ha
  cases a <;> first | rfl | cases hport

theorem does_releaseAllPorts (h : Pass.Does label t.releaseAllPorts as) :
    as = releaseActions (t.share label).portVlans.entries := by
  have hsteps : t.releaseAllPorts = t.portVlans.entries.flatMap fun e => (releaseActions e.2.entries).map (.act e.1) :=
    List.flatMap_congr fun e _ => releasePorts_eq e.1 e.2.entries
  rw [hsteps] at h
  rw [h.eq_flatMap, ← getD_map_portVlans releaseActions rfl, ← SortedMap.flatMap_entries]
  rfl

theorem does_deleteVlans (h : Pass.Does label t.deleteVlans as) :
    as = (newVlans [] ((t.share label).portVlans.entries.flatMap Prod.snd)).map .deleteVlan := by
  have hsteps : t.deleteVlans = t.portVlans.entries.flatMap fun e =>
      ((newVlans [] (e.2.entries.flatMap Prod.snd)).map Action.deleteVlan).map (.act e.1) := by
    refine List.flatMap_congr fun e _ => ?_
    rw [List.map_map, List.flatMap_def]
    rfl
  rw [hsteps] at h
  rw [h.eq_flatMap, ← getD_map_portVlans (fun ports => (newVlans [] (ports.flatMap Prod.snd)).map Action.deleteVlan) rfl,
    ← SortedMap.flatMap_entries]
  rfl

/-- Before the VLANs, deconfiguring does nothing about VLANs of ports. -/
theorem not_isVlan_of_deconfigure (hu : u ∈ t.deconfigureChannels ++ t.deconfigureMlag) {a : Action}
    (ha : a ∈ u.actions) : a.isVlan = false := by
  rcases List.mem_append.1 hu with hu | hu
  · exact Action.isVlan_of_isChannel (isChannel_of_deconfigureChannels hu ha)
  · rw [deconfigureMlag_eq] at hu
    obtain ⟨member, -, rfl⟩ := List.mem_map.1 hu
    rw [List.mem_singleton.1 ha]
    rfl

theorem not_isVlan_of_resetMtus (hu : u ∈ t.deconfigureMtus) {a : Action} (ha : a ∈ u.actions) : a.isVlan = false := by
  obtain ⟨switch, -, -, -, -, -, port, -, rfl⟩ := mem_deconfigureMtus.1 hu
  rw [List.mem_singleton.1 ha]
  rfl

theorem released_of_does (h : Pass.Does label t.deconfigure as) : Released (t.share label).portVlans.entries as := by
  rw [deconfigure_eq_releases] at h
  obtain ⟨_, _, rfl, h, h'⟩ := h.of_append
  obtain ⟨bs, released, rfl, hfirst, hreleased⟩ := h.of_append
  obtain ⟨deleted, cs, rfl, hdeleted, hlast⟩ := h'.of_append
  obtain ⟨-, hdeletes, hports⟩ :=
    Action.nothing_of_not_isVlan (not_isVlan_of_does hfirst fun u hu a => not_isVlan_of_deconfigure hu)
  obtain ⟨-, hdeletes', hports'⟩ :=
    Action.nothing_of_not_isVlan (not_isVlan_of_does hlast fun u hu a => not_isVlan_of_resetMtus hu)
  rw [does_releaseAllPorts hreleased, does_deleteVlans hdeleted]
  generalize (t.share label).portVlans.entries = ports
  obtain ⟨hnone, hall⟩ := filter_releaseActions ports
  constructor
  · have hnot : ((newVlans [] (ports.flatMap Prod.snd)).map Action.deleteVlan).filter Action.isPortVlan = [] := by
      simp [List.filter_map, Function.comp_def, Action.isPortVlan]
    rw [List.filter_append, List.filter_append, List.filter_append, hports, hports', hnot, hall, List.nil_append,
      List.nil_append, List.append_nil, releaseActions]
  · have hdeleted : ((newVlans [] (ports.flatMap Prod.snd)).map Action.deleteVlan).filterMap Action.deleted? =
        newVlans [] (ports.flatMap Prod.snd) := by
      simp [List.filterMap_map, Function.comp_def, Action.deleted?]
    rw [List.filterMap_append, List.filterMap_append, List.filterMap_append, hdeletes, hdeletes', hnone, hdeleted,
      List.nil_append, List.nil_append, List.append_nil]
    exact firstOccurrences_newVlans _

end Topology

/-! ## All switches -/

/-- The call that a plain action of a step is. -/
def Step.call? : Step → Option RecordedCall
  | act switch a => some ⟨switch, .act a⟩
  | whenMlag _ _ _ | withConsent _ _ _ => none

/-- Plain actions that end well are called one after the other. -/
theorem Pass.Completes.calls_of_acts {us : List Step} {es : List Event} (h : Pass.Completes us es)
    (hus : ∀ u ∈ us, ∃ switch a, u = .act switch a) : es.filterMap Event.call? = us.filterMap Step.call? := by
  induction h with
  | nil => rfl
  | @cons u us es fs hu _ ih =>
    obtain ⟨switch, a, rfl⟩ := hus u List.mem_cons_self
    cases hu
    rw [List.filterMap_append, ih fun u hu => hus u (List.mem_cons_of_mem _ hu)]
    rfl

/-- A call in steps that end well is an action of one of them. -/
theorem Pass.Completes.exists_step_of_call {us : List Step} {es : List Event} (h : Pass.Completes us es) {label : String}
    {a : Action} (hc : ⟨label, .act a⟩ ∈ es.filterMap Event.call?) : ∃ u ∈ us, u.switch = label ∧ a ∈ u.actions := by
  obtain ⟨e, he, hcall⟩ := List.mem_filterMap.1 hc
  obtain ⟨u, hu, hpermits⟩ := h.permits he
  cases e with
  | act switch b outcome =>
    cases hcall
    obtain ⟨hswitch, ha⟩ := hpermits.mem_actions
    exact ⟨u, hu, hswitch.symm, ha⟩
  | query | ask => cases hcall

/-- Every call that sets the mode of a port is directly followed by a call that tells the port to carry VLANs. -/
def ModesFollowed (cs : List RecordedCall) : Prop :=
  ∀ before label port mode after, cs = before ++ ⟨label, .act (.setSwitchportMode port mode)⟩ :: after →
    ∃ vlans rest, after = ⟨label, .act (.addVlansToPort port vlans)⟩ :: rest

namespace ModesFollowed

theorem append {cs ds : List RecordedCall} (hcs : ModesFollowed cs) (hds : ModesFollowed ds) :
    ModesFollowed (cs ++ ds) := by
  intro before label port mode after heq
  obtain ⟨rest, hbefore, rfl⟩ | ⟨between, -, hrest⟩ := split_append heq
  · obtain ⟨vlans, rest', rfl⟩ := hcs before label port mode rest hbefore
    exact ⟨vlans, rest' ++ ds, rfl⟩
  · exact hds between label port mode after hrest

theorem of_forall {cs : List RecordedCall}
    (h : ∀ label port mode, ⟨label, .act (.setSwitchportMode port mode)⟩ ∉ cs) : ModesFollowed cs := by
  rintro before label port mode after rfl
  exact absurd (List.mem_append_right before List.mem_cons_self) (h label port mode)

theorem pair (label : String) (port : Nat) (mode : SwitchportMode) (vlans : List VlanId) :
    ModesFollowed [⟨label, .act (.setSwitchportMode port mode)⟩, ⟨label, .act (.addVlansToPort port vlans)⟩] := by
  intro before label' port' mode' after heq
  cases before with
  | nil =>
    cases heq
    exact ⟨vlans, [], rfl⟩
  | cons c before =>
    obtain ⟨-, heq⟩ := List.cons.inj heq
    cases before with
    | nil => cases heq
    | cons c before => simp at heq

theorem trunkPorts (label : String) (created : List VlanId) (ports : List (Nat × List VlanId)) :
    ModesFollowed ((Topology.trunkPorts label created ports).filterMap Step.call?) := by
  induction ports generalizing created with
  | nil => exact of_forall (by simp [Topology.trunkPorts])
  | cons e ports ih =>
    obtain ⟨port, vlans⟩ := e
    have hcalls : (Topology.trunkPorts label created ((port, vlans) :: ports)).filterMap Step.call? =
        (Topology.newVlans created vlans).map (fun v => ⟨label, .act (.createVlan v)⟩) ++
          ([⟨label, .act (.setSwitchportMode port .trunk)⟩, ⟨label, .act (.addVlansToPort port vlans)⟩] ++
            (Topology.trunkPorts label (created ++ Topology.newVlans created vlans) ports).filterMap Step.call?) := by
      simp [Topology.trunkPorts, Step.call?, List.filterMap_map, Function.comp_def]
    rw [hcalls]
    exact (of_forall (by simp)).append ((pair label port .trunk vlans).append (ih _))

theorem flatMap {α : Type} {l : List α} {f : α → List RecordedCall} (h : ∀ x ∈ l, ModesFollowed (f x)) :
    ModesFollowed (l.flatMap f) := by
  induction l with
  | nil => exact of_forall (by simp)
  | cons x l ih =>
    rw [List.flatMap_cons]
    exact (h x List.mem_cons_self).append (ih fun y hy => h y (List.mem_cons_of_mem _ hy))

end ModesFollowed

namespace Recording

variable {t : Topology} {es : List Event}

theorem modesFollowed_configure (h : Pass.Completes t.configure es) : ModesFollowed (es.filterMap Event.call?) := by
  rw [Topology.configure, List.append_assoc, List.append_assoc] at h
  obtain ⟨fs, gs, rfl, hvlans, hrest⟩ := h.of_append
  have hacts : ∀ u ∈ t.configureVlans, ∃ switch a, u = .act switch a := fun u hu => by
    obtain ⟨switch, ports, port, vlans, -, -, ⟨v, -, rfl⟩ | rfl | rfl⟩ := Topology.mem_configureVlans hu <;>
      exact ⟨_, _, rfl⟩
  rw [List.filterMap_append, hvlans.calls_of_acts hacts, Topology.configureVlans, List.filterMap_flatMap]
  refine (ModesFollowed.flatMap fun e _ => .trunkPorts e.1 [] e.2.entries).append (.of_forall fun label port mode hc => ?_)
  obtain ⟨u, hu, -, ha⟩ := hrest.exists_step_of_call hc
  cases Topology.not_isVlan_of_configure hu ha

/-- After a VLAN is deleted nothing changes on the ports of any switch. -/
theorem not_isPortVlan_after_delete (h : Pass.Completes t.deconfigure es) {before after : List RecordedCall}
    {label : String} {v : VlanId} (hsplit : es.filterMap Event.call? = before ++ ⟨label, .act (.deleteVlan v)⟩ :: after)
    {switch : String} {a : Action} (hc : ⟨switch, .act a⟩ ∈ after) : a.isPortVlan = false := by
  rw [Topology.deconfigure_eq_releases] at h
  obtain ⟨fs, gs, rfl, hreleases, hdeletes⟩ := h.of_append
  have hfirst : ⟨label, .act (.deleteVlan v)⟩ ∉ fs.filterMap Event.call? := fun hd => by
    obtain ⟨u, hu, -, ha⟩ := hreleases.exists_step_of_call hd
    exact Topology.deleteVlan_notMem_releases hu v ha
  have hlast {switch : String} {a : Action} (hc : ⟨switch, .act a⟩ ∈ gs.filterMap Event.call?) : a.isPortVlan = false := by
    obtain ⟨u, hu, -, ha⟩ := hdeletes.exists_step_of_call hc
    rcases List.mem_append.1 hu with hu | hu
    · obtain ⟨e, -, hu⟩ := List.mem_flatMap.1 hu
      obtain ⟨w, -, rfl⟩ := List.mem_map.1 hu
      rw [List.mem_singleton.1 ha]
      rfl
    · exact Action.isPortVlan_of_not_isVlan (Topology.not_isVlan_of_resetMtus hu ha)
  rw [List.filterMap_append] at hsplit
  obtain ⟨between, -, hrest⟩ := split_append_right hfirst hsplit
  exact hlast (hrest ▸ List.mem_append_right _ (List.mem_cons_of_mem _ hc))

/-- Recording switches that have drivers for a topology and never fail have each VLAN created and deleted once. To
configure them ends well, and calls on each switch `create_vlan` once for each VLAN of its ports and for no other, in the
order in which the ports first have them and before a port is told to carry the VLAN, and for each port, in ascending
order, the trunk mode and its whole list, the one directly after the other. If deconfiguring ends well, it calls on each
switch the removal of each VLAN from each port that lists it, the access mode for the port after these, and `delete_vlan`
once for each VLAN; and no VLAN is deleted on any switch before the last removal and the last mode change on all of
them. -/
theorem vlan_calls_once (t : Topology) {π : Type} (o : Operator π) {s : PassState Recording π}
    (hcover : ∀ label ∈ t.switches, s.fleet.switches.contains label = true)
    (hplain : ∀ switch ∈ s.fleet.switches.values, switch.failOn = none) :
    let configured := Pass.run fleet o t t.configure s
    let deconfigured := Pass.run fleet o t t.deconfigure s
    (configured.1 = .ok () ∧ ∃ calls, configured.2.fleet.log = s.fleet.log ++ calls ∧ ModesFollowed calls ∧
      ∀ label, Trunked (t.share label).portVlans.entries (actionsOn label calls)) ∧
    (deconfigured.1 = .ok () → ∃ calls, deconfigured.2.fleet.log = s.fleet.log ++ calls ∧
      (∀ label, Released (t.share label).portVlans.entries (actionsOn label calls)) ∧
      ∀ before label v after, calls = before ++ ⟨label, .act (.deleteVlan v)⟩ :: after →
        ∀ switch a, ⟨switch, .act a⟩ ∈ after → a.isPortVlan = false) := by
  intro configured deconfigured
  constructor
  · obtain ⟨hok, -⟩ := configure_of_sound o t s (sound_of_failOn hplain) (covered_of_contains hcover)
    refine ⟨hok, _, log_pass o t t.configure s, modesFollowed_configure (Pass.completes_of_ok hok), fun label => ?_⟩
    rw [actionsOn_calls hok]
    exact Topology.trunked_of_does (Pass.does_of_ok hok label)
  · intro hok
    refine ⟨_, log_pass o t t.deconfigure s, fun label => ?_, fun before label v after hsplit switch a hc => ?_⟩
    · rw [actionsOn_calls hok]
      exact Topology.released_of_does (Pass.does_of_ok hok label)
    · exact not_isPortVlan_after_delete (Pass.completes_of_ok hok) hsplit hc

/-- Two switches, on each of which a port has a VLAN twice and shares it with another port. -/
def overlappingPorts : Topology :=
  let v20 : VlanId := ⟨20, by decide, by decide⟩
  let v30 : VlanId := ⟨30, by decide, by decide⟩
  let v40 : VlanId := ⟨40, by decide, by decide⟩
  let ports : SortedMap Nat (List VlanId) := .ofList [(6, [v20, v30]), (5, [v30, v40, v30])]
  { Topology.empty with portVlans := .ofList [("data_1", ports), ("data_2", ports)] }

theorem vlan_calls_once_overlappingPorts :
    let t := overlappingPorts
    let s : PassState Recording Script := ⟨.start (.ofList [("data_1", .plain), ("data_2", ⟨true, none⟩)]), ⟨[], []⟩⟩
    let configured := Pass.run fleet Script.operator t t.configure s
    let deconfigured := Pass.run fleet Script.operator t t.deconfigure s
    configured.1 = .ok () ∧ deconfigured.1 = .ok () ∧ ModesFollowed configured.2.fleet.log ∧
      Trunked (t.share "data_2").portVlans.entries (actionsOn "data_2" configured.2.fleet.log) ∧
      ((actionsOn "data_2" configured.2.fleet.log).filterMap Action.created?).map (·.number) = [30, 40, 20] ∧
      Released (t.share "data_1").portVlans.entries (actionsOn "data_1" deconfigured.2.fleet.log) ∧
      ((actionsOn "data_1" deconfigured.2.fleet.log).filter Action.isPortVlan).length = 7 := by
  intro t s configured deconfigured
  have hcover : ∀ label ∈ t.switches, s.fleet.switches.contains label = true := by decide +kernel
  have hplain : ∀ switch ∈ s.fleet.switches.values, switch.failOn = none := by decide +kernel
  have hok' : deconfigured.1 = .ok () := by decide +kernel
  obtain ⟨⟨hok, calls, hlog, hmodes, htrunked⟩, hreleased⟩ := vlan_calls_once t Script.operator hcover hplain
  obtain ⟨calls', hlog', hreleased, -⟩ := hreleased hok'
  have hstart : s.fleet.log = [] := rfl
  have hcalls : configured.2.fleet.log = calls := by rw [hlog, hstart, List.nil_append]
  have hcalls' : deconfigured.2.fleet.log = calls' := by rw [hlog', hstart, List.nil_append]
  refine ⟨hok, hok', ?_, ?_, by decide +kernel, ?_, by decide +kernel⟩
  · rw [hcalls]
    exact hmodes
  · rw [hcalls]
    exact htrunked "data_2"
  · rw [hcalls']
    exact hreleased "data_1"

end Recording

end SwitchFabric
