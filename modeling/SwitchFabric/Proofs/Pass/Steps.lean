import SwitchFabric.Pass.Configure
import SwitchFabric.Proofs.Pass.Plan

/-!
# What the steps of a pass can do

Whatever happens in a run comes from one of its steps (`Pass.permits_of_mem_events`): an action of the step on
its switch, the question to that switch, or the step's question to the operator. The steps themselves are
those of the four phases of configuring and of deconfiguring, each described here once by the entries of the
views that it comes from. Of MLAG, configuring does no more than to configure and to enable it on members of pairs
(`Topology.Configures`).
-/

namespace SwitchFabric

/-- The action is about MLAG as a whole. -/
def Action.isMlag : Action → Bool
  | configureMlag _ | enableMlag | deconfigureMlag => true
  | _ => false

/-- The action is about a port channel. -/
def Action.isChannel : Action → Bool
  | createLagInterface _ | removeLagInterface _ | removeChannelGroup _ | bindPortsToLagInterface .. => true
  | addVlansToLagPortChannel .. | setMtuForLagPortChannel .. => true
  | createMlagInterface _ | removeMlagInterface _ | bindPortToMlagInterface .. => true
  | addVlansToMlagPortChannel .. | setMtuForMlagPortChannel .. => true
  | _ => false

theorem Action.isMlag_of_isChannel {a : Action} (h : a.isChannel = true) : a.isMlag = false := by
  cases a <;> first | rfl | cases h

namespace Step

/-- The switch that a step is about. -/
def switch : Step → String
  | act switch _ | whenMlag switch _ _ | withConsent switch _ _ => switch

/-- The actions that a step may do. -/
def actions : Step → List Action
  | act _ a => [a]
  | whenMlag _ _ as | withConsent _ _ as => as

/-- The question that a step puts to the operator. -/
def question? : Step → Option String
  | withConsent _ question _ => some question
  | act _ _ | whenMlag _ _ _ => none

/-- The events that a step can bring about. -/
inductive Permits (t : Step) : Event → Prop where
  | act {a : Action} (outcome : Except SwitchError Unit) :
    a ∈ t.actions → Permits t (.act t.switch a outcome)
  | query (answer : Except SwitchError Bool) : Permits t (.query t.switch answer)
  | ask {question : String} (answer : Except PromptError Bool) :
    t.question? = some question → Permits t (.ask question answer)

theorem Permits.mem_actions {t : Step} {switch : String} {a : Action} {outcome : Except SwitchError Unit}
    (h : t.Permits (.act switch a outcome)) : switch = t.switch ∧ a ∈ t.actions := by
  cases h with
  | act _ ha => exact ⟨rfl, ha⟩

/-- The step asks the operator nothing and does not take MLAG down. -/
def Quiet (t : Step) : Prop := t.question? = none ∧ .deconfigureMlag ∉ t.actions

end Step

variable {σ π : Type} (f : Fleet σ) (o : Operator π)

theorem Plan.mem_events_actions {switch : String} {as : List Action} {k : Plan} {s : PassState σ π}
    {e : Event} (h : e ∈ (actions switch as k).events f o s) :
    (∃ a ∈ as, ∃ outcome, e = .act switch a outcome) ∨ ∃ s', e ∈ k.events f o s' := by
  induction as generalizing s with
  | nil => exact .inr ⟨s, h⟩
  | cons a as ih =>
    rw [actions_cons, events] at h
    rcases List.mem_cons.1 h with rfl | h
    · exact .inl ⟨a, List.mem_cons_self, _, rfl⟩
    · rcases hx : f.act switch a s.fleet with ⟨_ | _, fleet⟩ <;> rw [hx] at h
      · cases h
      · refine (ih h).imp_left fun hacts => ?_
        obtain ⟨b, hb, hr⟩ := hacts
        exact ⟨b, List.mem_cons_of_mem _ hb, hr⟩

theorem Step.mem_events_plan {t : Step} {k : Plan} {s : PassState σ π} {e : Event}
    (h : e ∈ (t.plan k).events f o s) : t.Permits e ∨ ∃ s', e ∈ k.events f o s' := by
  have hact : ∀ {s}, e ∈ (Plan.actions t.switch t.actions k).events f o s →
      t.Permits e ∨ ∃ s', e ∈ k.events f o s' := fun h =>
    (Plan.mem_events_actions f o h).imp_left fun ⟨b, hb, r, hr⟩ => hr ▸ .act r hb
  cases t with
  | act switch a => exact hact h
  | whenMlag switch configured as =>
    rw [plan, Plan.events] at h
    rcases List.mem_cons.1 h with rfl | h
    · exact .inl (.query _)
    · rcases hx : f.isMlagConfigured switch s.fleet with ⟨_ | answer, fleet⟩ <;> rw [hx] at h
      · cases h
      · dsimp only at h
        split at h
        · exact hact h
        · exact .inr ⟨_, h⟩
  | withConsent switch question as =>
    rw [plan, Plan.events] at h
    rcases List.mem_cons.1 h with rfl | h
    · exact .inl (.query _)
    · rcases hx : f.isMlagConfigured switch s.fleet with ⟨_ | _ | _, fleet⟩ <;> rw [hx] at h
      · cases h
      · exact .inr ⟨_, h⟩
      · dsimp only at h
        rw [if_pos rfl, Plan.events] at h
        rcases List.mem_cons.1 h with rfl | h
        · exact .inl (.ask _ rfl)
        · dsimp only at h
          rcases hy : o.confirm question s.operator with ⟨_ | _ | _, operator⟩ <;> rw [hy] at h
          · cases h
          · exact .inr ⟨_, h⟩
          · dsimp only at h
            rw [if_pos rfl] at h
            exact hact h

/-- Whatever happens when steps are done comes from one of them. -/
theorem Pass.permits_of_mem_events {ts : List Step} {s : PassState σ π} {e : Event}
    (h : e ∈ (plan ts).events f o s) : ∃ t ∈ ts, t.Permits e := by
  induction ts generalizing s with
  | nil => cases h
  | cons t ts ih =>
    rcases Step.mem_events_plan f o h with h | ⟨s', h⟩
    · exact ⟨t, List.mem_cons_self, h⟩
    · obtain ⟨u, hu, hp⟩ := ih h
      exact ⟨u, List.mem_cons_of_mem _ hu, hp⟩

namespace Topology

variable {t : Topology} {u : Step}

/-! ## Configuring -/

theorem mem_newVlans {v : VlanId} {seen vlans : List VlanId} :
    v ∈ newVlans seen vlans ↔ v ∈ vlans ∧ v ∉ seen := by
  induction vlans generalizing seen with
  | nil => simp [newVlans]
  | cons w vlans ih =>
    rw [newVlans]
    split
    · next h =>
      have hw : w ∈ seen := by simpa using h
      rw [ih, List.mem_cons]
      exact ⟨fun ⟨hv, hs⟩ => ⟨.inr hv, hs⟩, fun ⟨hv, hs⟩ => ⟨hv.resolve_left fun e => hs (e ▸ hw), hs⟩⟩
    · next h =>
      have hw : w ∉ seen := by simpa using h
      rw [List.mem_cons, ih, List.mem_cons, List.mem_cons, not_or]
      constructor
      · rintro (rfl | ⟨hv, -, hs⟩)
        · exact ⟨.inl rfl, hw⟩
        · exact ⟨.inr hv, hs⟩
      · rintro ⟨rfl | hv, hs⟩
        · exact .inl rfl
        · by_cases e : v = w
          · exact .inl e
          · exact .inr ⟨hv, e, hs⟩

theorem mem_trunkPorts {switch : String} {created : List VlanId} {ports : List (Nat × List VlanId)}
    (h : u ∈ trunkPorts switch created ports) :
    ∃ port vlans, (port, vlans) ∈ ports ∧
      ((∃ v ∈ vlans, u = .act switch (.createVlan v)) ∨ u = .act switch (.setSwitchportMode port .trunk) ∨
        u = .act switch (.addVlansToPort port vlans)) := by
  induction ports generalizing created with
  | nil => cases h
  | cons e ports ih =>
    obtain ⟨port, vlans⟩ := e
    rw [trunkPorts] at h
    rcases List.mem_append.1 h with h | h
    · obtain ⟨v, hv, rfl⟩ := List.mem_map.1 h
      exact ⟨port, vlans, List.mem_cons_self, .inl ⟨v, (mem_newVlans.1 hv).1, rfl⟩⟩
    · rcases List.mem_cons.1 h with rfl | h
      · exact ⟨port, vlans, List.mem_cons_self, .inr (.inl rfl)⟩
      · rcases List.mem_cons.1 h with rfl | h
        · exact ⟨port, vlans, List.mem_cons_self, .inr (.inr rfl)⟩
        · obtain ⟨port', vlans', hm, hu⟩ := ih h
          exact ⟨port', vlans', List.mem_cons_of_mem _ hm, hu⟩

theorem mem_configureVlans (h : u ∈ t.configureVlans) :
    ∃ switch ports port vlans, (switch, ports) ∈ t.portVlans.entries ∧ (port, vlans) ∈ ports.entries ∧
      ((∃ v ∈ vlans, u = .act switch (.createVlan v)) ∨ u = .act switch (.setSwitchportMode port .trunk) ∨
        u = .act switch (.addVlansToPort port vlans)) := by
  obtain ⟨⟨switch, ports⟩, hm, h⟩ := List.mem_flatMap.1 h
  obtain ⟨port, vlans, hp, hu⟩ := mem_trunkPorts h
  exact ⟨switch, ports, port, vlans, hm, hp, hu⟩

theorem mem_configureMtus (h : u ∈ t.configureMtus) :
    ∃ switch mtus mtu ports, (switch, mtus) ∈ t.mtuPorts.entries ∧ (mtu, ports) ∈ mtus.entries ∧
      ∃ port ∈ ports, u = .act switch (.setMtuForPort port mtu) := by
  obtain ⟨⟨switch, mtus⟩, hm, h⟩ := List.mem_flatMap.1 h
  obtain ⟨⟨mtu, ports⟩, hp, h⟩ := List.mem_flatMap.1 h
  obtain ⟨port, hport, rfl⟩ := List.mem_map.1 h
  exact ⟨switch, mtus, mtu, ports, hm, hp, port, hport, rfl⟩

theorem mem_configurePair {p : MlagPair} (h : u ∈ configurePair p) :
    ∃ m ∈ p.members, u = .whenMlag m.switch false [.configureMlag (m.params p.iplChannel)] ∨
      u = .whenMlag m.switch true [.enableMlag] := by
  rcases List.mem_append.1 h with h | h
  · obtain ⟨m, hm, rfl⟩ := List.mem_map.1 h
    exact ⟨m, hm, .inl rfl⟩
  · obtain ⟨m, hm, rfl⟩ := List.mem_map.1 h
    exact ⟨m, hm, .inr rfl⟩

theorem mem_configureMlag (h : u ∈ t.configureMlag) :
    ∃ p ∈ t.mlagPairs, ∃ m ∈ p.members,
      u = .whenMlag m.switch false [.configureMlag (m.params p.iplChannel)] ∨
        u = .whenMlag m.switch true [.enableMlag] := by
  obtain ⟨p, hp, h⟩ := List.mem_flatMap.1 h
  exact ⟨p, hp, mem_configurePair h⟩

theorem mem_configureChannels (h : u ∈ t.configureChannels) :
    ∃ g ∈ t.channelGroups, ∃ switch groups, (switch, groups) ∈ g.members.entries ∧
      ∃ a ∈ t.configureMember g switch groups, u = .act switch a := by
  obtain ⟨g, hg, h⟩ := List.mem_flatMap.1 h
  obtain ⟨⟨switch, groups⟩, hm, h⟩ := List.mem_flatMap.1 h
  obtain ⟨a, ha, rfl⟩ := List.mem_map.1 h
  exact ⟨g, hg, switch, groups, hm, a, ha, rfl⟩

theorem mem_configureMember {g : ChannelGroup} {switch : String} {groups : List PortGroup} {a : Action}
    (h : a ∈ t.configureMember g switch groups) :
    g.isMlag = true ∧ (∃ ports i, (ports, i) ∈ groups.zipIdx ∧
        a ∈ t.configureMlagChannel switch (mlagChannelOf g i ports) ports) ∨
      g.isMlag = false ∧ ∃ ports ∈ groups, a ∈ t.configureLagChannel switch ports := by
  rw [configureMember] at h
  cases hmlag : g.isMlag with
  | true =>
    rw [hmlag, if_pos rfl] at h
    obtain ⟨⟨ports, i⟩, hm, ha⟩ := List.mem_flatMap.1 h
    exact .inl ⟨rfl, ports, i, hm, ha⟩
  | false =>
    rw [hmlag, if_neg Bool.false_ne_true] at h
    exact .inr ⟨rfl, List.mem_flatMap.1 h⟩

theorem mem_configureMlagChannel {switch : String} {channel : Nat} {ports : PortGroup} {a : Action} :
    a ∈ t.configureMlagChannel switch channel ports ↔
      a = .removeMlagInterface channel ∨ a = .createMlagInterface channel ∨
      (t.vlansOf switch ports.channel ≠ [] ∧
        a = .addVlansToMlagPortChannel channel (t.vlansOf switch ports.channel)) ∨
      (∃ mtu, t.mtuOf switch ports.channel = some mtu ∧ a = .setMtuForMlagPortChannel channel mtu) ∨
      ∃ port ∈ ports.ports, a = .bindPortToMlagInterface port channel := by
  rw [configureMlagChannel]
  cases hv : t.vlansOf switch ports.channel <;> cases hm : t.mtuOf switch ports.channel <;>
    simp [eq_comm]

theorem mem_configureLagChannel {switch : String} {ports : PortGroup} {a : Action} :
    a ∈ t.configureLagChannel switch ports ↔
      a = .removeChannelGroup ports.channel ∨ a = .createLagInterface ports.channel ∨
      (t.vlansOf switch ports.channel ≠ [] ∧
        a = .addVlansToLagPortChannel ports.channel (t.vlansOf switch ports.channel)) ∨
      (∃ mtu, t.mtuOf switch ports.channel = some mtu ∧ a = .setMtuForLagPortChannel ports.channel mtu) ∨
      a = .bindPortsToLagInterface ports.ports ports.channel := by
  rw [configureLagChannel]
  cases hv : t.vlansOf switch ports.channel <;> cases hm : t.mtuOf switch ports.channel <;>
    simp

/-- The steps that configuring is made of. -/
inductive Configures (t : Topology) : Step → Prop where
  | act (switch : String) {a : Action} : a.isMlag = false → Configures t (.act switch a)
  | configureMlag {p : MlagPair} {m : MlagMember} : p ∈ t.mlagPairs → m ∈ p.members →
    Configures t (.whenMlag m.switch false [.configureMlag (m.params p.iplChannel)])
  | enableMlag {p : MlagPair} {m : MlagMember} : p ∈ t.mlagPairs → m ∈ p.members →
    Configures t (.whenMlag m.switch true [.enableMlag])

/-- The phases but the last leave port channels alone. -/
theorem isChannel_of_mem (h : u ∈ t.configureVlans ++ t.configureMtus ++ t.configureMlag) {a : Action}
    (ha : a ∈ u.actions) : a.isChannel = false := by
  rw [List.mem_append, List.mem_append] at h
  rcases h with (h | h) | h
  · obtain ⟨switch, ports, port, vlans, -, -, ⟨v, -, rfl⟩ | rfl | rfl⟩ := mem_configureVlans h <;>
    · rw [List.mem_singleton.1 ha]
      rfl
  · obtain ⟨switch, mtus, mtu, ports, -, -, port, -, rfl⟩ := mem_configureMtus h
    rw [List.mem_singleton.1 ha]
    rfl
  · obtain ⟨p, -, member, -, rfl | rfl⟩ := mem_configureMlag h <;>
    · rw [List.mem_singleton.1 ha]
      rfl

/-- The last phase is plain actions about port channels. -/
theorem exists_act_of_configureChannels (h : u ∈ t.configureChannels) :
    ∃ switch a, u = .act switch a ∧ a.isChannel = true := by
  obtain ⟨g, -, switch, groups, -, a, ha, rfl⟩ := mem_configureChannels h
  refine ⟨switch, a, rfl, ?_⟩
  obtain ⟨-, ports, i, -, ha⟩ | ⟨-, ports, -, ha⟩ := mem_configureMember ha
  · rw [mem_configureMlagChannel] at ha
    obtain rfl | rfl | ⟨-, rfl⟩ | ⟨mtu, -, rfl⟩ | ⟨port, -, rfl⟩ := ha <;> rfl
  · rw [mem_configureLagChannel] at ha
    obtain rfl | rfl | ⟨-, rfl⟩ | ⟨mtu, -, rfl⟩ | rfl := ha <;> rfl

/-- The phases but the one for MLAG are plain actions, and not about MLAG as a whole. -/
theorem exists_act_of_mem (h : u ∈ t.configureVlans ++ t.configureMtus ++ t.configureChannels) :
    ∃ switch a, u = .act switch a ∧ a.isMlag = false := by
  rw [List.mem_append, List.mem_append] at h
  rcases h with (h | h) | h
  · obtain ⟨switch, ports, port, vlans, -, -, ⟨v, -, rfl⟩ | rfl | rfl⟩ := mem_configureVlans h <;> exact ⟨_, _, rfl, rfl⟩
  · obtain ⟨switch, mtus, mtu, ports, -, -, port, -, rfl⟩ := mem_configureMtus h
    exact ⟨_, _, rfl, rfl⟩
  · obtain ⟨switch, a, rfl, ha⟩ := exists_act_of_configureChannels h
    exact ⟨switch, a, rfl, Action.isMlag_of_isChannel ha⟩

theorem configures_of_mem (h : u ∈ t.configure) : t.Configures u := by
  by_cases hmlag : u ∈ t.configureMlag
  · obtain ⟨p, hp, m, hm, rfl | rfl⟩ := mem_configureMlag hmlag
    · exact .configureMlag hp hm
    · exact .enableMlag hp hm
  · have hother : u ∈ t.configureVlans ++ t.configureMtus ++ t.configureChannels := by
      simpa [configure, hmlag] using h
    obtain ⟨switch, a, rfl, ha⟩ := exists_act_of_mem hother
    exact .act switch ha

/-- MLAG is configured by the steps for pairs only. -/
theorem mem_configureMlag_of_actions (hu : u ∈ t.configure) {params : MlagParams}
    (ha : .configureMlag params ∈ u.actions) :
    ∃ p ∈ t.mlagPairs, ∃ member ∈ p.members, params = member.params p.iplChannel ∧
      u = .whenMlag member.switch false [.configureMlag params] := by
  cases configures_of_mem hu with
  | @act switch a hmlag =>
    rw [← List.mem_singleton.1 ha] at hmlag
    cases hmlag
  | @configureMlag p member hp hm =>
    obtain rfl := Action.configureMlag.inj (List.mem_singleton.1 ha)
    exact ⟨p, hp, member, hm, rfl, rfl⟩
  | enableMlag => simp [Step.actions] at ha

/-- Configuring asks nothing and does not take MLAG down. -/
theorem quiet_configure (h : u ∈ t.configure) : u.Quiet := by
  cases configures_of_mem h with
  | @act switch a ha =>
    refine ⟨rfl, fun hm => ?_⟩
    rw [← List.mem_singleton.1 hm] at ha
    cases ha
  | configureMlag | enableMlag => exact ⟨rfl, by simp [Step.actions]⟩

/-! ## Deconfiguring -/

/-- The labels of the members of all pairs, pair by pair, the master first. -/
def memberLabels (t : Topology) : List String := t.mlagPairs.flatMap fun p => p.members.map (·.switch)

/-- Take MLAG down on a switch with the operator's consent. -/
def teardownStep (label : String) : Step := .withConsent label (teardownQuestion label) [.deconfigureMlag]

theorem deconfigureMlag_eq (t : Topology) : t.deconfigureMlag = t.memberLabels.map teardownStep := by
  rw [deconfigureMlag, memberLabels, List.map_flatMap]
  simp only [List.map_map]
  rfl

theorem mem_deconfigureChannels (h : u ∈ t.deconfigureChannels) :
    ∃ g ∈ t.channelGroups, ∃ switch groups, (switch, groups) ∈ g.members.entries ∧
      u ∈ removeChannels g switch groups := by
  obtain ⟨g, hg, h⟩ := List.mem_flatMap.1 h
  obtain ⟨⟨switch, groups⟩, hm, h⟩ := List.mem_flatMap.1 h
  exact ⟨g, hg, switch, groups, hm, h⟩

theorem mem_removeChannels {g : ChannelGroup} {switch : String} {groups : List PortGroup}
    (h : u ∈ removeChannels g switch groups) :
    (∃ channels : List Nat, u = .whenMlag switch true (channels.map .removeMlagInterface)) ∨
      ∃ channel, u = .act switch (.removeLagInterface channel) := by
  rw [removeChannels] at h
  split at h
  · rw [List.mem_singleton.1 h]
    exact .inl ⟨groups.zipIdx.map fun e => mlagChannelOf g e.2 e.1, by rw [List.map_map]; rfl⟩
  · obtain ⟨ports, -, rfl⟩ := List.mem_map.1 h
    exact .inr ⟨ports.channel, rfl⟩

theorem mem_deconfigureVlans :
    u ∈ t.deconfigureVlans ↔
      ∃ switch ports port vlans, (switch, ports) ∈ t.portVlans.entries ∧ (port, vlans) ∈ ports.entries ∧
        ((∃ v ∈ vlans, u = .act switch (.removeVlansFromPort port [v])) ∨
          u = .act switch (.setSwitchportMode port .access) ∨
          ∃ v ∈ vlans, u = .act switch (.deleteVlan v)) := by
  rw [deconfigureVlans, List.mem_append, List.mem_flatMap, List.mem_flatMap]
  constructor
  · rintro (⟨⟨switch, ports⟩, hm, h⟩ | ⟨⟨switch, ports⟩, hm, h⟩)
    · obtain ⟨⟨port, vlans⟩, hp, h⟩ := List.mem_flatMap.1 h
      refine ⟨switch, ports, port, vlans, hm, hp, ?_⟩
      rcases List.mem_append.1 h with h | h
      · obtain ⟨v, hv, rfl⟩ := List.mem_map.1 h
        exact .inl ⟨v, hv, rfl⟩
      · exact .inr (.inl (List.mem_singleton.1 h))
    · obtain ⟨v, hv, rfl⟩ := List.mem_map.1 h
      obtain ⟨vlans, hvlans, hv⟩ := List.mem_flatten.1 (mem_newVlans.1 hv).1
      obtain ⟨⟨port, _⟩, hp, rfl⟩ := List.mem_map.1 hvlans
      exact ⟨switch, ports, port, _, hm, hp, .inr (.inr ⟨v, hv, rfl⟩)⟩
  · rintro ⟨switch, ports, port, vlans, hm, hp, ⟨v, hv, rfl⟩ | rfl | ⟨v, hv, rfl⟩⟩
    · refine .inl ⟨_, hm, List.mem_flatMap.2 ⟨_, hp, List.mem_append_left _ ?_⟩⟩
      exact List.mem_map.2 ⟨v, hv, rfl⟩
    · exact .inl ⟨_, hm, List.mem_flatMap.2 ⟨_, hp, List.mem_append_right _ List.mem_cons_self⟩⟩
    · refine .inr ⟨_, hm, List.mem_map.2 ⟨v, mem_newVlans.2 ⟨?_, List.not_mem_nil⟩, rfl⟩⟩
      exact List.mem_flatten.2 ⟨vlans, List.mem_map.2 ⟨_, hp, rfl⟩, hv⟩

theorem mem_deconfigureMtus :
    u ∈ t.deconfigureMtus ↔
      ∃ switch mtus mtu ports, (switch, mtus) ∈ t.mtuPorts.entries ∧ (mtu, ports) ∈ mtus.entries ∧
        ∃ port ∈ ports, u = .act switch (.setMtuForPort port .reset) := by
  rw [deconfigureMtus, List.mem_flatMap]
  constructor
  · rintro ⟨⟨switch, mtus⟩, hm, h⟩
    obtain ⟨port, hport, rfl⟩ := List.mem_map.1 h
    obtain ⟨ports, hports, hport⟩ := List.mem_flatten.1 hport
    obtain ⟨⟨mtu, _⟩, hp, rfl⟩ := List.mem_map.1 hports
    exact ⟨switch, mtus, mtu, _, hm, hp, port, hport, rfl⟩
  · rintro ⟨switch, mtus, mtu, ports, hm, hp, port, hport, rfl⟩
    refine ⟨_, hm, List.mem_map.2 ⟨port, ?_, rfl⟩⟩
    exact List.mem_flatten.2 ⟨ports, List.mem_map.2 ⟨_, hp, rfl⟩, hport⟩

/-- The first phase does nothing but remove port channels. -/
theorem isChannel_of_deconfigureChannels (h : u ∈ t.deconfigureChannels) {a : Action} (ha : a ∈ u.actions) :
    a.isChannel = true := by
  obtain ⟨g, -, switch, groups, -, hu⟩ := mem_deconfigureChannels h
  obtain ⟨channels, rfl⟩ | ⟨channel, rfl⟩ := mem_removeChannels hu
  · obtain ⟨channel, -, rfl⟩ := List.mem_map.1 ha
    rfl
  · rw [List.mem_singleton.1 ha]
    rfl

theorem quiet_deconfigureChannels (h : u ∈ t.deconfigureChannels) : u.Quiet := by
  refine ⟨?_, fun hm => by cases isChannel_of_deconfigureChannels h hm⟩
  obtain ⟨g, -, switch, groups, -, hu⟩ := mem_deconfigureChannels h
  obtain ⟨channels, rfl⟩ | ⟨channel, rfl⟩ := mem_removeChannels hu <;> rfl

/-- VLANs and MTUs are taken back without a look at the MLAG of the switches. -/
theorem act_of_mem_release (h : u ∈ t.deconfigureVlans ++ t.deconfigureMtus) :
    ∃ switch a, u = .act switch a ∧ a ≠ .deconfigureMlag ∧ a.isChannel = false := by
  rcases List.mem_append.1 h with h | h
  · obtain ⟨switch, -, port, vlans, -, -, ⟨v, -, rfl⟩ | rfl | ⟨v, -, rfl⟩⟩ := mem_deconfigureVlans.1 h
    · exact ⟨switch, .removeVlansFromPort port [v], rfl, nofun, rfl⟩
    · exact ⟨switch, .setSwitchportMode port .access, rfl, nofun, rfl⟩
    · exact ⟨switch, .deleteVlan v, rfl, nofun, rfl⟩
  · obtain ⟨switch, -, -, -, -, -, port, -, rfl⟩ := mem_deconfigureMtus.1 h
    exact ⟨switch, .setMtuForPort port .reset, rfl, nofun, rfl⟩

theorem quiet_release (h : u ∈ t.deconfigureVlans ++ t.deconfigureMtus) : u.Quiet := by
  obtain ⟨switch, a, rfl, ha, -⟩ := act_of_mem_release h
  exact ⟨rfl, fun hm => ha (List.mem_singleton.1 hm).symm⟩

theorem deconfigure_eq (t : Topology) :
    t.deconfigure =
      t.deconfigureChannels ++
        (t.memberLabels.map teardownStep ++ (t.deconfigureVlans ++ t.deconfigureMtus)) := by
  rw [deconfigure, deconfigureMlag_eq, List.append_assoc, List.append_assoc]

end Topology

end SwitchFabric
