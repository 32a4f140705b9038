import SwitchFabric.Proofs.Pass.Steps
import SwitchFabric.Proofs.Topology.Channels
import SwitchFabric.Proofs.Topology.Pairs

/-!
# The share of one switch

What a topology says about one switch (`Topology.share`): its own entries in the views by port, the channel groups that
have it as a member, each with the groups of the master that number the port channels, and the MLAG pairs that it is in.
The steps of configuring that are about the switch follow from this, phase by phase, and so are the same in any two
topologies that agree on the share (`Topology.stepsOn_configure_congr`).
-/

namespace SwitchFabric

/-- What a member of a channel group has of the group. -/
structure GroupShare where
  own : List PortGroup
  masterGroups : List PortGroup
  isMlag : Bool
  deriving DecidableEq

/-- The share of a switch in a channel group that it is a member of. -/
def ChannelGroup.share? (g : ChannelGroup) (label : String) : Option GroupShare :=
  (g.members.get? label).map fun own => ⟨own, g.masterGroups, g.isMlag⟩

/-- The parameters that a switch has in each role of an MLAG pair, the number of the link's port channel among them. -/
structure PairShare where
  asMaster : Option MlagParams
  asPeer : Option MlagParams
  deriving DecidableEq

/-- The parameters in the roles that the switch has, master first. -/
def PairShare.params (s : PairShare) : List MlagParams := s.asMaster.toList ++ s.asPeer.toList

namespace MlagPair

/-- The share of a switch in a pair, with parameters in the roles that the switch has. -/
def share (p : MlagPair) (label : String) : PairShare where
  asMaster := if p.master.switch = label then some (p.master.params p.iplChannel) else none
  asPeer := if p.peer.switch = label then some (p.peer.params p.iplChannel) else none

/-- The share of a switch in a pair that it is a member of. -/
def share? (p : MlagPair) (label : String) : Option PairShare :=
  if p.hasMember label then some (p.share label) else none

end MlagPair

/-- What a topology says about one switch. -/
structure Share where
  portVlans : SortedMap Nat (List VlanId)
  mtuPorts : SortedMap Mtu (List Nat)
  groups : List GroupShare
  pairs : List PairShare
  deriving DecidableEq

/-- The share of a switch in the fabric. There is nothing in it if the switch is not mentioned. -/
def Topology.share (t : Topology) (label : String) : Share where
  portVlans := (t.portVlans.get? label).getD .empty
  mtuPorts := (t.mtuPorts.get? label).getD .empty
  groups := t.channelGroups.filterMap (·.share? label)
  pairs := t.mlagPairs.filterMap (·.share? label)

/-! ## The steps about one switch -/

/-- The steps that are about a switch. -/
def stepsOn (label : String) (us : List Step) : List Step := us.filter (·.switch = label)

variable {label : String}

theorem stepsOn_cons (u : Step) (us : List Step) :
    stepsOn label (u :: us) = if u.switch = label then u :: stepsOn label us else stepsOn label us := by
  rw [stepsOn, List.filter_cons]
  simp only [decide_eq_true_eq]
  rfl

theorem stepsOn_append (us vs : List Step) :
    stepsOn label (us ++ vs) = stepsOn label us ++ stepsOn label vs := List.filter_append ..

theorem stepsOn_flatMap {α : Type} (l : List α) (f : α → List Step) :
    stepsOn label (l.flatMap f) = l.flatMap fun x => stepsOn label (f x) := List.filter_flatMap ..

theorem stepsOn_of_forall {us : List Step} (h : ∀ u ∈ us, u.switch = label) : stepsOn label us = us :=
  List.filter_eq_self.2 fun u hu => decide_eq_true (h u hu)

theorem stepsOn_eq_nil {us : List Step} (h : ∀ u ∈ us, u.switch ≠ label) : stepsOn label us = [] :=
  List.filter_eq_nil_iff.2 fun u hu => by simpa using h u hu

/-- Of steps that each are about the switch of an entry, those about one switch come from its own entry. -/
theorem stepsOn_entries {ν : Type} (m : SortedMap String ν) (f : String → ν → List Step)
    (hf : ∀ switch x, ∀ u ∈ f switch x, u.switch = switch) :
    stepsOn label (m.entries.flatMap fun e => f e.1 e.2) = ((m.get? label).map (f label)).getD [] := by
  rw [stepsOn_flatMap, ← SortedMap.flatMap_entries]
  refine List.flatMap_congr fun e _ => ?_
  by_cases he : e.1 = label
  · rw [if_pos he, ← he, stepsOn_of_forall (hf e.1 e.2)]
  · rw [if_neg he]
    refine stepsOn_eq_nil fun u hu => ?_
    rw [hf e.1 e.2 u hu]
    exact he

/-- Only elements with a share count, and each by its share. -/
theorem flatMap_of_share {α β γ : Type} {l : List α} {share? : α → Option β} {f : α → List γ} {g : β → List γ}
    (h : ∀ x, f x = ((share? x).map g).getD []) : l.flatMap f = (l.filterMap share?).flatMap g := by
  rw [List.filterMap_eq_flatMap_toList, List.flatMap_assoc]
  refine List.flatMap_congr fun x _ => ?_
  rw [h]
  cases share? x with
  | none => rfl
  | some y => exact (List.append_nil _).symm

namespace Topology

variable (t : Topology)

theorem switch_of_mem_trunkPorts {switch : String} {created : List VlanId} {ports : List (Nat × List VlanId)}
    {u : Step} (h : u ∈ trunkPorts switch created ports) : u.switch = switch := by
  obtain ⟨port, vlans, -, ⟨v, -, rfl⟩ | rfl | rfl⟩ := mem_trunkPorts h <;> rfl

theorem stepsOn_configureVlans :
    stepsOn label t.configureVlans = trunkPorts label [] (t.share label).portVlans.entries := by
  refine (stepsOn_entries t.portVlans (fun switch ports => trunkPorts switch [] ports.entries)
    fun switch ports u hu => switch_of_mem_trunkPorts hu).trans ?_
  rw [share]
  cases t.portVlans.get? label <;> rfl

/-- The steps for the MTUs of one switch. -/
def portMtuSteps (switch : String) (mtus : SortedMap Mtu (List Nat)) : List Step :=
  mtus.entries.flatMap fun (mtu, ports) => ports.map fun port => .act switch (.setMtuForPort port mtu)

theorem stepsOn_configureMtus :
    stepsOn label t.configureMtus = portMtuSteps label (t.share label).mtuPorts := by
  have hswitch (switch : String) (mtus : SortedMap Mtu (List Nat)) : ∀ u ∈ portMtuSteps switch mtus, u.switch = switch := by
    intro u hu
    obtain ⟨e, -, hu⟩ := List.mem_flatMap.1 hu
    obtain ⟨port, -, rfl⟩ := List.mem_map.1 hu
    rfl
  refine (stepsOn_entries t.mtuPorts portMtuSteps hswitch).trans ?_
  rw [share]
  cases t.mtuPorts.get? label <;> rfl

/-! ## MLAG -/

/-- The steps for MLAG on a switch in a pair. -/
def pairSteps (label : String) (s : PairShare) : List Step :=
  s.params.map (fun params => .whenMlag label false [.configureMlag params]) ++
    s.params.map fun _ => .whenMlag label true [.enableMlag]

theorem params_share (p : MlagPair) :
    (p.share label).params = (p.members.filter (·.switch = label)).map (·.params p.iplChannel) := by
  rw [PairShare.params, MlagPair.share, MlagPair.members, List.filter_cons, List.filter_cons, List.filter_nil]
  by_cases hm : p.master.switch = label <;> by_cases hp : p.peer.switch = label <;> simp [hm, hp]

/-- Of a question to each member, those to one switch are for the members that it is. -/
theorem stepsOn_members (members : List MlagMember) (configured : Bool) (f : MlagMember → List Action) :
    stepsOn label (members.map fun m => .whenMlag m.switch configured (f m)) =
      (members.filter (·.switch = label)).map fun m => .whenMlag label configured (f m) := by
  rw [stepsOn, List.filter_map]
  refine List.map_congr_left fun m hm => ?_
  have hswitch : m.switch = label := of_decide_eq_true (List.mem_filter.1 hm).2
  rw [hswitch]

theorem stepsOn_configurePair (p : MlagPair) :
    stepsOn label (configurePair p) = ((p.share? label).map (pairSteps label)).getD [] := by
  rw [MlagPair.share?]
  split
  · rw [Option.map_some, Option.getD_some, pairSteps, params_share, configurePair, stepsOn_append, stepsOn_members,
      stepsOn_members, List.map_map, List.map_map]
    rfl
  · next hnot =>
    refine stepsOn_eq_nil fun u hu heq => hnot ?_
    obtain ⟨m, hm, rfl | rfl⟩ := mem_configurePair hu <;> exact List.any_eq_true.2 ⟨m, hm, beq_iff_eq.2 heq⟩

theorem stepsOn_configureMlag :
    stepsOn label t.configureMlag = (t.share label).pairs.flatMap (pairSteps label) := by
  rw [configureMlag, stepsOn_flatMap]
  exact flatMap_of_share stepsOn_configurePair

/-! ## Port channels -/

/-- What is done for a switch with a share in a channel group. -/
def groupActions (label : String) (s : GroupShare) : List Action :=
  if s.isMlag then
    s.own.zipIdx.flatMap fun (ports, i) =>
      t.configureMlagChannel label (((s.masterGroups[i]?).map PortGroup.channel).getD ports.channel) ports
  else s.own.flatMap (t.configureLagChannel label)

theorem stepsOn_configureChannels :
    stepsOn label t.configureChannels =
      (t.share label).groups.flatMap fun s => (t.groupActions label s).map (.act label) := by
  rw [configureChannels, stepsOn_flatMap]
  refine flatMap_of_share fun g => ?_
  have hswitch (switch : String) (groups : List PortGroup) :
      ∀ u ∈ (t.configureMember g switch groups).map (Step.act switch), u.switch = switch := by
    intro u hu
    obtain ⟨a, -, rfl⟩ := List.mem_map.1 hu
    rfl
  refine (stepsOn_entries g.members (fun switch groups => (t.configureMember g switch groups).map (.act switch))
    hswitch).trans ?_
  rw [ChannelGroup.share?, Option.map_map]
  rfl

variable {t} {t' : Topology}

theorem vlansOf_congr (h : (t.share label).portVlans = (t'.share label).portVlans) :
    t.vlansOf label = t'.vlansOf label := by
  have hvlans (t : Topology) (port : Nat) : t.vlansOf label port = ((t.share label).portVlans.get? port).getD [] := by
    rw [vlansOf, share]
    cases t.portVlans.get? label <;> rfl
  funext port
  rw [hvlans, hvlans, h]

theorem mtuOf_congr (h : (t.share label).mtuPorts = (t'.share label).mtuPorts) : t.mtuOf label = t'.mtuOf label := by
  have hmtu (t : Topology) (port : Nat) :
      t.mtuOf label port = ((t.share label).mtuPorts.entries.find? fun e => e.2.contains port).map Prod.fst := by
    rw [mtuOf, share]
    cases t.mtuPorts.get? label <;> rfl
  funext port
  rw [hmtu, hmtu, h]

theorem groupActions_congr (h : t.share label = t'.share label) : t.groupActions label = t'.groupActions label := by
  have hvlans := vlansOf_congr (congrArg Share.portVlans h)
  have hmtu := mtuOf_congr (congrArg Share.mtuPorts h)
  have hmlag : t.configureMlagChannel label = t'.configureMlagChannel label := by
    funext channel ports
    rw [configureMlagChannel, configureMlagChannel, hvlans, hmtu]
  have hlag : t.configureLagChannel label = t'.configureLagChannel label := by
    funext ports
    rw [configureLagChannel, configureLagChannel, hvlans, hmtu]
  funext s
  rw [groupActions, groupActions, hmlag, hlag]

/-- The steps of configuring about a switch follow from its share. -/
theorem stepsOn_configure_congr (h : t.share label = t'.share label) :
    stepsOn label t.configure = stepsOn label t'.configure := by
  have hsteps (t : Topology) : stepsOn label t.configure = trunkPorts label [] (t.share label).portVlans.entries ++
      portMtuSteps label (t.share label).mtuPorts ++ (t.share label).pairs.flatMap (pairSteps label) ++
        (t.share label).groups.flatMap fun s => (t.groupActions label s).map (.act label) := by
    rw [configure, stepsOn_append, stepsOn_append, stepsOn_append, stepsOn_configureVlans, stepsOn_configureMtus,
      stepsOn_configureMlag, stepsOn_configureChannels]
  rw [hsteps t, hsteps t', h, groupActions_congr h]

end Topology

end SwitchFabric
