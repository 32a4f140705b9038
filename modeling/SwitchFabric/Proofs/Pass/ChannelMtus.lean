import SwitchFabric.Cluster.Builder
import SwitchFabric.Proofs.Pass.Effects
import SwitchFabric.Proofs.Topology.Channels
import SwitchFabric.Proofs.Topology.Wiring
import SwitchFabric.Recording

/-!
# The MTU of a port channel

When a topology is configured, a port is given all MTUs that it is listed under (`mem_portMtus_configureMtus`), in
ascending order (`pairwise_portMtus_configureMtus`), and a port channel the MTU of its lowest port
(`mtus_of_does_configure`), which is the smallest of them. So a port channel has the first MTU that its lowest port is
given, while the port ends up with the last (`channel_mtu_first`). The two differ where interfaces with different MTUs
are wired to the port (`channel_mtu_stale`).
-/

namespace SwitchFabric

namespace Action

/-- The MTU that the action gives a port. -/
def portMtu? (port : Nat) : Action → Option Mtu
  | setMtuForPort p mtu => if p = port then some mtu else none
  | _ => none

/-- The action gives a port channel an MTU. -/
def isChannelMtu : Action → Bool
  | setMtuForLagPortChannel .. | setMtuForMlagPortChannel .. => true
  | _ => false

end Action

/-- The MTUs that actions give a port, one after the other. -/
def portMtus (port : Nat) (as : List Action) : List Mtu := as.filterMap (Action.portMtu? port)

/-- A port channel of a switch. -/
structure SwitchChannel where
  isMlag : Bool
  number : Nat
  ports : PortGroup

/-- The action that gives a port channel an MTU. -/
def SwitchChannel.setMtu (channel : SwitchChannel) : Mtu → Action :=
  if channel.isMlag then .setMtuForMlagPortChannel channel.number else .setMtuForLagPortChannel channel.number

/-- The port channels of a switch in a channel group. -/
def ChannelGroup.channelsOf (g : ChannelGroup) (switch : String) : List SwitchChannel :=
  (g.groupsOf switch).zipIdx.map fun (ports, i) =>
    ⟨g.isMlag, if g.isMlag then Topology.mlagChannelOf g i ports else ports.channel, ports⟩

/-- The port channels of a switch. -/
def Topology.channelsOf (t : Topology) (switch : String) : List SwitchChannel :=
  t.channelGroups.flatMap (·.channelsOf switch)

/-! ## MTUs in ascending order -/

section Ascending

variable {l : List Mtu} (h : l.Pairwise fun m n => m.value ≤ n.value)

include h

theorem head?_eq_some_iff_least {m : Mtu} :
    l.head? = some m ↔ m ∈ l ∧ ∀ n ∈ l, m.value ≤ n.value := by
  cases l with
  | nil => simp
  | cons x l =>
    have hhead := (List.pairwise_cons.1 h).1
    rw [List.head?_cons, Option.some.injEq, List.forall_mem_cons]
    constructor
    · rintro rfl
      exact ⟨List.mem_cons_self, Nat.le_refl _, hhead⟩
    · rintro ⟨hm, hle, -⟩
      rcases List.mem_cons.1 hm with rfl | hm
      · rfl
      · exact Mtu.ext (Nat.le_antisymm (hhead m hm) hle)

theorem head?_eq_getLast?_iff : l.head? = l.getLast? ↔ ∀ m ∈ l, ∀ n ∈ l, m = n := by
  constructor
  · intro heq m hm n hn
    cases hlast : l.getLast? with
    | none => simp [List.getLast?_eq_none_iff.1 hlast] at hm
    | some x =>
      obtain ⟨-, hleast⟩ := (head?_eq_some_iff_least h).1 (heq.trans hlast)
      obtain ⟨init, rfl⟩ := List.getLast?_eq_some_iff.1 hlast
      -- nothing is smaller than the first, nor larger than the last
      have hall : ∀ m ∈ init ++ [x], m = x := by
        intro m hm
        refine Mtu.ext (Nat.le_antisymm ?_ (hleast m hm))
        rcases List.mem_append.1 hm with hm | hm
        · exact (List.pairwise_append.1 h).2.2 m hm x (List.mem_singleton_self x)
        · rw [List.mem_singleton.1 hm]
      rw [hall m hm, hall n hn]
  · intro hall
    cases l with
    | nil => rfl
    | cons x l =>
      rw [List.head?_cons, List.getLast?_eq_some_getLast (List.cons_ne_nil x l), Option.some.injEq]
      exact hall _ List.mem_cons_self _ (List.getLast_mem _)

end Ascending

/-! ## What configuring does -/

namespace Topology

variable {t : Topology} {label : String} {as : List Action} {port : Nat}

/-- What gives the ports of a switch their MTUs. -/
def portMtuActions (mtus : SortedMap Mtu (List Nat)) : List Action :=
  mtus.entries.flatMap fun (mtu, ports) => ports.map fun port => .setMtuForPort port mtu

theorem does_configureMtus (h : Pass.Does label t.configureMtus as) :
    as = ((t.mtuPorts.get? label).map portMtuActions).getD [] := by
  have hsteps : t.configureMtus = t.mtuPorts.entries.flatMap fun e => (portMtuActions e.2).map (.act e.1) := by
    refine List.flatMap_congr fun e _ => ?_
    rw [portMtuActions, List.map_flatMap]
    simp only [List.map_map]
    rfl
  rw [hsteps] at h
  rw [h.eq_flatMap, ← SortedMap.flatMap_entries]
  rfl

/-- What is done on a switch for its port channels. -/
theorem does_configureChannels (h : Pass.Does label t.configureChannels as) :
    as = t.channelGroups.flatMap fun g => ((g.members.get? label).map (t.configureMember g label)).getD [] := by
  rw [configureChannels_eq] at h
  exact h.eq_flatMap.trans (flatMap_configureMember t label)

/-- No MTU is set for VLANs or for MLAG. -/
theorem not_sets_mtu (h : Pass.Does label t.configureVlans as ∨ Pass.Does label t.configureMlag as) {a : Action}
    (ha : a ∈ as) : (∀ port, a.portMtu? port = none) ∧ a.isChannelMtu = false := by
  rcases h with h | h
  · obtain ⟨u, hu, -, hu'⟩ := h.exists_step ha
    obtain ⟨switch, ports, port, vlans, -, -, ⟨v, -, rfl⟩ | rfl | rfl⟩ := mem_configureVlans hu <;>
    · obtain rfl := List.mem_singleton.1 hu'
      exact ⟨fun _ => rfl, rfl⟩
  · obtain ⟨u, hu, -, hu'⟩ := h.exists_step ha
    obtain ⟨p, -, m, -, rfl | rfl⟩ := mem_configureMlag hu <;>
    · obtain rfl := List.mem_singleton.1 hu'
      exact ⟨fun _ => rfl, rfl⟩

theorem isChannelMtu_of_configureMtus (h : Pass.Does label t.configureMtus as) {a : Action} (ha : a ∈ as) :
    a.isChannelMtu = false := by
  obtain ⟨u, hu, -, hu'⟩ := h.exists_step ha
  obtain ⟨switch, mtus, mtu, ports, -, -, port, -, rfl⟩ := mem_configureMtus hu
  rw [List.mem_singleton.1 hu']
  rfl

theorem portMtu?_of_configureChannels (h : Pass.Does label t.configureChannels as) {a : Action} (ha : a ∈ as) :
    a.portMtu? port = none := by
  obtain ⟨u, hu, -, hu'⟩ := h.exists_step ha
  obtain ⟨switch, b, rfl, hchannel⟩ := exists_act_of_configureChannels hu
  obtain rfl := List.mem_singleton.1 hu'
  cases a <;> first | rfl | cases hchannel

/-! ### Ports -/

theorem portMtus_portMtuActions (mtus : SortedMap Mtu (List Nat)) :
    portMtus port (portMtuActions mtus) =
      mtus.entries.flatMap fun e => e.2.filterMap fun p => if p = port then some e.1 else none := by
  rw [portMtus, portMtuActions, List.filterMap_flatMap]
  refine List.flatMap_congr fun e _ => ?_
  rw [List.filterMap_map]
  rfl

/-- The MTUs that a port is given are those it is listed under. -/
theorem mem_portMtus_configureMtus (h : Pass.Does label t.configureMtus as) {m : Mtu} :
    m ∈ portMtus port as ↔ port ∈ heldAt t.mtuPorts label m := by
  rw [does_configureMtus h, heldAt]
  cases t.mtuPorts.get? label with
  | none => simp [portMtus]
  | some mtus =>
    rw [Option.map_some, Option.getD_some, portMtus_portMtuActions, Option.bind_some, List.mem_flatMap]
    constructor
    · rintro ⟨e, he, hm⟩
      obtain ⟨p, hp, hm⟩ := List.mem_filterMap.1 hm
      obtain ⟨rfl, hkey⟩ := Option.ite_none_right_eq_some.1 hm
      cases hkey
      rw [SortedMap.mem_entries_iff.1 he, Option.getD_some]
      exact hp
    · intro hport
      cases hget : mtus.get? m with
      | none => simp [hget] at hport
      | some ports =>
        rw [hget, Option.getD_some] at hport
        exact ⟨_, SortedMap.mem_entries_iff.2 hget, List.mem_filterMap.2 ⟨port, hport, if_pos rfl⟩⟩

/-- The MTUs that a port is given ascend. -/
theorem pairwise_portMtus_configureMtus (h : Pass.Does label t.configureMtus as) :
    (portMtus port as).Pairwise fun m n => m.value ≤ n.value := by
  rw [does_configureMtus h]
  cases t.mtuPorts.get? label with
  | none => exact List.Pairwise.nil
  | some mtus =>
    rw [Option.map_some, Option.getD_some, portMtus_portMtuActions, List.pairwise_flatMap]
    have hone : ∀ e : Mtu × List Nat, ∀ m ∈ e.2.filterMap fun p => if p = port then some e.1 else none, m = e.1 := by
      intro e m hm
      obtain ⟨p, -, hm⟩ := List.mem_filterMap.1 hm
      exact (Option.some.inj (Option.ite_none_right_eq_some.1 hm).2).symm
    constructor
    · intro e _
      refine List.pairwise_of_forall_mem_list fun m hm n hn => ?_
      rw [hone e m hm, hone e n hn]
    · refine mtus.ascending.imp fun {d e} hlt m hm n hn => ?_
      rw [hone d m hm, hone e n hn]
      exact Nat.le_of_lt (by simpa [OrderedKey.before] using hlt)

/-! ### Port channels -/

theorem filter_isChannelMtu_configureMlagChannel (t : Topology) (switch : String) (channel : Nat) (ports : PortGroup) :
    (t.configureMlagChannel switch channel ports).filter Action.isChannelMtu =
      ((t.mtuOf switch ports.channel).map (.setMtuForMlagPortChannel channel)).toList := by
  have hbind : (ports.ports.map fun port => Action.bindPortToMlagInterface port channel).filter
      Action.isChannelMtu = [] := by
    simp [List.filter_map, Function.comp_def, Action.isChannelMtu]
  rw [configureMlagChannel, List.filter_append, hbind]
  cases t.vlansOf switch ports.channel <;> cases t.mtuOf switch ports.channel <;> rfl

theorem filter_isChannelMtu_configureLagChannel (t : Topology) (switch : String) (ports : PortGroup) :
    (t.configureLagChannel switch ports).filter Action.isChannelMtu =
      ((t.mtuOf switch ports.channel).map (.setMtuForLagPortChannel ports.channel)).toList := by
  rw [configureLagChannel]
  cases t.vlansOf switch ports.channel <;> cases t.mtuOf switch ports.channel <;> rfl

/-- The port channels of a member are given the MTUs that their lowest ports are listed with. -/
theorem filter_isChannelMtu_configureMember (t : Topology) (g : ChannelGroup) (switch : String) :
    (((g.members.get? switch).map (t.configureMember g switch)).getD []).filter Action.isChannelMtu =
      (g.channelsOf switch).filterMap fun ch => (t.mtuOf switch ch.ports.channel).map ch.setMtu := by
  rw [ChannelGroup.channelsOf, ChannelGroup.groupsOf]
  cases g.members.get? switch with
  | none => rfl
  | some groups =>
    rw [Option.map_some, Option.getD_some, Option.getD_some, configureMember, List.filterMap_map,
      List.filterMap_eq_flatMap_toList]
    cases g.isMlag with
    | true =>
      rw [if_pos rfl, List.filter_flatMap]
      exact List.flatMap_congr fun e _ => filter_isChannelMtu_configureMlagChannel t switch _ e.1
    | false =>
      rw [if_neg Bool.false_ne_true, List.filter_flatMap]
      have hindexed (f : PortGroup → List Action) : groups.flatMap f = groups.zipIdx.flatMap fun e => f e.1 := by
        rw [← List.flatMap_map Prod.fst f, List.zipIdx_map_fst]
      rw [hindexed]
      exact List.flatMap_congr fun e _ => filter_isChannelMtu_configureLagChannel t switch e.1

/-! ### Both -/

/-- What configuring does about MTUs: what its second phase gives ports, and its last one port channels. -/
theorem mtus_of_does_configure (h : Pass.Does label t.configure as) :
    as.filter Action.isChannelMtu =
        (t.channelsOf label).filterMap (fun ch => (t.mtuOf label ch.ports.channel).map ch.setMtu) ∧
      ∃ bs, Pass.Does label t.configureMtus bs ∧ ∀ port, portMtus port as = portMtus port bs := by
  rw [configure] at h
  obtain ⟨as, channels, rfl, h, hchannels⟩ := h.of_append
  obtain ⟨as, mlag, rfl, h, hmlag⟩ := h.of_append
  obtain ⟨vlans, mtus, rfl, hvlans, hmtus⟩ := h.of_append
  have hnone {bs : List Action} (h : ∀ a ∈ bs, a.isChannelMtu = false) : bs.filter Action.isChannelMtu = [] :=
    List.filter_eq_nil_iff.2 fun a ha => by simp [h a ha]
  constructor
  · rw [List.filter_append, List.filter_append, List.filter_append,
      hnone fun a ha => (not_sets_mtu (.inl hvlans) ha).2,
      hnone fun a ha => isChannelMtu_of_configureMtus hmtus ha,
      hnone fun a ha => (not_sets_mtu (.inr hmlag) ha).2,
      does_configureChannels hchannels, List.filter_flatMap, channelsOf, List.filterMap_flatMap]
    exact List.flatMap_congr fun g _ => filter_isChannelMtu_configureMember t g label
  · refine ⟨mtus, hmtus, fun port => ?_⟩
    have hport {bs : List Action} (h : ∀ a ∈ bs, a.portMtu? port = none) : portMtus port bs = [] :=
      List.filterMap_eq_nil_iff.2 h
    rw [portMtus, List.filterMap_append, List.filterMap_append, List.filterMap_append]
    show portMtus port vlans ++ portMtus port mtus ++ portMtus port mlag ++ portMtus port channels = _
    rw [hport fun a ha => (not_sets_mtu (.inl hvlans) ha).1 port,
      hport fun a ha => (not_sets_mtu (.inr hmlag) ha).1 port,
      hport fun a ha => portMtu?_of_configureChannels hchannels ha, List.nil_append, List.append_nil, List.append_nil]

end Topology

namespace Cluster

/-- In a pass that configures to the end, the MTUs that a port is given are those of the interfaces wired to it, in
ascending order. A switch gives MTUs to exactly those of its port channels whose lowest port is given one, and to each
of them the first that this port is given. That is also the last one, and the port ends up with it, if and only if no
two interfaces wired to the port have different MTUs. -/
theorem channel_mtu_first {c : Cluster} {t : Topology} (ht : c.topology = .ok t) {σ π : Type} (f : Fleet σ)
    (o : Operator π) {s : PassState σ π} (hok : (Pass.run f o t t.configure s).1 = .ok ()) (label : String) :
    let done := effects label (Pass.events f o t t.configure s)
    done.filter Action.isChannelMtu = (t.channelsOf label).filterMap (fun ch =>
      (portMtus ch.ports.channel done).head?.map ch.setMtu) ∧
    ∀ port, (∀ m, m ∈ portMtus port done ↔ c.HasMtu label port m) ∧
      (portMtus port done).Pairwise (fun m n => m.value ≤ n.value) ∧
      ((portMtus port done).head? = (portMtus port done).getLast? ↔
        ∀ m n, c.HasMtu label port m → c.HasMtu label port n → m = n) := by
  intro done
  have hdoes : Pass.Does label t.configure done := Pass.does_of_ok hok label
  obtain ⟨hchannels, mtus, hmtus, hports⟩ := Topology.mtus_of_does_configure hdoes
  have hmem (port : Nat) (m : Mtu) : m ∈ portMtus port done ↔ c.HasMtu label port m := by
    rw [hports, Topology.mem_portMtus_configureMtus hmtus, ← (topology_eq_ok ht).2.1, mem_heldAt_mtuPorts]
  have hsorted (port : Nat) : (portMtus port done).Pairwise fun m n => m.value ≤ n.value := by
    rw [hports]
    exact Topology.pairwise_portMtus_configureMtus hmtus
  have hfirst (port : Nat) : (portMtus port done).head? = t.mtuOf label port := by
    refine Option.ext fun m => ?_
    rw [head?_eq_some_iff_least (hsorted port), mtuOf_eq_some_iff ht, LeastMtu]
    simp only [hmem]
  refine ⟨by simp only [hchannels, hfirst], fun port => ⟨hmem port, hsorted port, ?_⟩⟩
  rw [head?_eq_getLast?_iff (hsorted port)]
  simp only [hmem]
  exact ⟨fun h m n hm hn => h m hm n hn, fun h m hm n hn => h m n hm hn⟩

/-- A LAG of two ports that are wired to the slaves of a bond, and to a VLAN interface of the bond with an MTU of its
own. -/
def taggedBond (mtu : Nat) : Cluster :=
  bare.withSwitch "data_1"
    |>.withInterface (.bond "bond0")
    |>.withInterface ((Interface.bondSlave "eth10" "bond0").withMtu 9000)
    |>.withInterface ((Interface.bondSlave "eth11" "bond0").withMtu 9000)
    |>.withInterface ((Interface.ofVlan "bond0" 20).withMtu mtu)
    |>.withTemplate "compute" [⟨"data_1", "eth10", [5]⟩, ⟨"data_1", "eth11", [6]⟩, ⟨"data_1", "bond0.20", [5, 6]⟩]
    |>.withTemplateInterface "compute" "bond0"

/-- Where all interfaces have the same MTU, the LAG gets what its lowest port is given, first and last. -/
theorem channel_mtu_first_taggedBond :
    let c := taggedBond 9000
    let t := c.topology.toOption.getD .empty
    let s : PassState Recording Script := ⟨.start (.ofList [("data_1", .plain)]), ⟨[], []⟩⟩
    let done := effects "data_1" (Pass.events Recording.fleet Script.operator t t.configure s)
    c.topology = .ok t ∧ (Pass.run Recording.fleet Script.operator t t.configure s).1 = .ok () ∧
      portMtus 5 done = [⟨9000⟩, ⟨9000⟩] ∧ (portMtus 5 done).head? = (portMtus 5 done).getLast? ∧
      done.filter Action.isChannelMtu = [.setMtuForLagPortChannel 5 ⟨9000⟩] := by
  intro c t s done
  have hmtus : portMtus 5 done = [⟨9000⟩, ⟨9000⟩] := by decide +kernel
  have hok : (Pass.run Recording.fleet Script.operator t t.configure s).1 = .ok () := by decide +kernel
  obtain ⟨hchannels, hports⟩ := channel_mtu_first (c := c) (t := t) rfl Recording.fleet Script.operator hok "data_1"
  obtain ⟨hmem, -, hiff⟩ := hports 5
  refine ⟨rfl, hok, hmtus, hiff.2 fun m n hm hn => ?_, ?_⟩
  · have hall : ∀ m ∈ portMtus 5 done, m = ⟨9000⟩ := by simp [hmtus]
    rw [hall m ((hmem m).2 hm), hall n ((hmem n).2 hn)]
  · refine hchannels.trans ?_
    decide +kernel

/-- Where the VLAN interface has a smaller MTU than the slaves, the LAG gets the smaller one, and its lowest port ends
up with the larger. -/
theorem channel_mtu_stale :
    let c := taggedBond 1500
    let t := c.topology.toOption.getD .empty
    let s : PassState Recording Script := ⟨.start (.ofList [("data_1", .plain)]), ⟨[], []⟩⟩
    let done := effects "data_1" (Pass.events Recording.fleet Script.operator t t.configure s)
    c.check = .ok () ∧ c.topology = .ok t ∧
      (Pass.run Recording.fleet Script.operator t t.configure s).1 = .ok () ∧
      portMtus 5 done = [⟨1500⟩, ⟨9000⟩] ∧ done.filter Action.isChannelMtu = [.setMtuForLagPortChannel 5 ⟨1500⟩] := by
  intro c t s done
  refine ⟨rfl, rfl, ?_, ?_, ?_⟩
  · decide +kernel
  · decide +kernel
  · decide +kernel

end Cluster

end SwitchFabric
