import SwitchFabric.Cluster.Builder
import SwitchFabric.Proofs.Pass.Completed
import SwitchFabric.Proofs.Recording.ChannelNumbers
import SwitchFabric.Proofs.Recording.MlagCalls
import SwitchFabric.Proofs.Topology.Pairs

/-!
# Bringing up a pair

Since a switch is in one pair at most, a pair has MLAG set up and enabled on its members by its own steps only
(`Checked.exists_split`). These set it up on both before they enable it on either, whatever the drivers answer
(`Checked.setup_before_enable`), and on each with the parameters of its member (`Checked.params_of_call`).

On recording switches, which answer what was made of them, this means that the members of a pair are brought up
together (`brought_up_together`).
-/

namespace SwitchFabric

/-- The parameters are those for one end of a link: what the switch's own link says, and the address of the other. -/
structure MlagParams.Matches (params : MlagParams) (own other : Link) : Prop where
  vlan : own.vlan = some params.vlan
  ports : own.ports = params.ports
  address : own.ip = some params.cidr.address
  length : own.length = some params.cidr.length
  peerIp : other.ip = some params.peerIp

theorem MlagMember.Follows.matches {m m' : MlagMember} {s s' : SwitchRecord} {l l' : Link} {partner partner' : String}
    (h : m.Follows s l partner) (h' : m'.Follows s' l' partner') (hpeer : m.peerIp = m'.cidr.address) (channel : Nat) :
    (m.params channel).Matches l l' where
  vlan := h.vlan
  ports := h.ports
  address := h.address
  length := h.length
  peerIp := by rw [h'.address, ← hpeer]; rfl

/-- MLAG is enabled on members of the pair only after each of them has been asked whether it has MLAG, and has had it
configured if it said no. -/
def MlagPair.EnabledLast (p : MlagPair) (es : List Event) : Prop :=
  ∀ before label outcome after, es = before ++ .act label .enableMlag outcome :: after → p.hasMember label = true →
    ∀ m ∈ p.members, (∃ answer, .query m.switch (.ok answer) ∈ before) ∧
      (.query m.switch (.ok false) ∈ before → ∃ params, .act m.switch (.configureMlag params) (.ok ()) ∈ before)

theorem MlagPair.hasMember_of_mem {p : MlagPair} {m : MlagMember} (hm : m ∈ p.members) : p.hasMember m.switch = true :=
  List.any_eq_true.2 ⟨m, hm, beq_self_eq_true _⟩

/-! ## The steps of a pair -/

namespace Cluster

variable {c : Cluster} {t : Topology} {p : MlagPair}

theorem Checked.pair_of_hasMember (h : c.Checked) (ht : c.topology = .ok t) (hp : p ∈ t.mlagPairs) {q : MlagPair}
    (hq : q ∈ t.mlagPairs) {m : MlagMember} (hm : m ∈ q.members) (hmember : p.hasMember m.switch = true) : q = p := by
  obtain ⟨m', hm', hs⟩ := List.any_eq_true.1 hmember
  exact h.pair_unique (topology_eq_ok ht).2.2.2 hq hp hm hm' (beq_iff_eq.1 hs).symm

/-- The steps before and after those of a pair are not about MLAG on its members. -/
theorem Checked.exists_split (h : c.Checked) (ht : c.topology = .ok t) (hp : p ∈ t.mlagPairs) :
    ∃ pre post, t.configure = pre ++ Topology.configurePair p ++ post ∧
      ∀ u ∈ pre ++ post, p.hasMember u.switch = true → ∀ a ∈ u.actions, a.isMlag = false := by
  obtain ⟨ps, qs, hpairs⟩ := List.append_of_mem hp
  have hnodup : (ps ++ p :: qs).Nodup := hpairs ▸ h.nodup_mlagPairs (topology_eq_ok ht).2.2.2
  have hother : ∀ q ∈ ps ++ qs, q ∈ t.mlagPairs ∧ q ≠ p := fun q hq => by
    refine ⟨hpairs ▸ List.perm_middle.symm.subset (List.mem_cons_of_mem p hq), ?_⟩
    rintro rfl
    exact (List.nodup_cons.1 (List.nodup_middle.1 hnodup)).1 hq
  refine ⟨t.configureVlans ++ t.configureMtus ++ ps.flatMap Topology.configurePair,
    qs.flatMap Topology.configurePair ++ t.configureChannels, ?_, fun u hu hmember a ha => ?_⟩
  · simp only [Topology.configure, Topology.configureMlag, hpairs, List.flatMap_append, List.flatMap_cons,
      List.append_assoc]
  have hor : u ∈ t.configureVlans ++ t.configureMtus ++ t.configureChannels ∨
      ∃ q ∈ ps ++ qs, u ∈ Topology.configurePair q := by
    rw [← List.mem_flatMap, List.flatMap_append]
    simp only [List.mem_append] at hu ⊢
    tauto
  rcases hor with hu | ⟨q, hq, hu⟩
  · obtain ⟨switch, b, rfl, hb⟩ := Topology.exists_act_of_mem hu
    rw [List.mem_singleton.1 ha]
    exact hb
  · obtain ⟨hmem, hne⟩ := hother q hq
    obtain ⟨m, hm, rfl | rfl⟩ := Topology.mem_configurePair hu <;>
      exact absurd (h.pair_of_hasMember ht hp hmem hm hmember) hne

/-- Before MLAG is enabled on a member of a pair, each member has said that it has MLAG, or has said that it has none
and has had it configured. -/
theorem Checked.setup_before_enable (h : c.Checked) (ht : c.topology = .ok t) (hp : p ∈ t.mlagPairs) {σ π : Type}
    {f : Fleet σ} {o : Operator π} {s : PassState σ π} {before after : List Event} {label : String}
    {outcome : Except SwitchError Unit} (hmember : p.hasMember label = true)
    (hes : (Pass.plan t.configure).events f o s = before ++ .act label .enableMlag outcome :: after)
    {m : MlagMember} (hm : m ∈ p.members) :
    .query m.switch (.ok true) ∈ before ∨ .query m.switch (.ok false) ∈ before ∧
      .act m.switch (.configureMlag (m.params p.iplChannel)) (.ok ()) ∈ before := by
  obtain ⟨pre, post, hconfigure, hfree⟩ := h.exists_split ht hp
  have hnot : ∀ u ∈ pre ++ Topology.setupSteps p, ¬ u.Permits (.act label .enableMlag outcome) := by
    intro u hu hpermits
    obtain ⟨rfl, ha⟩ := hpermits.mem_actions
    rcases List.mem_append.1 hu with hu | hu
    · cases hfree u (List.mem_append_left _ hu) hmember _ ha
    · obtain ⟨m', -, rfl⟩ := List.mem_map.1 hu
      simp [Step.actions] at ha
  have hsplit : t.configure = (pre ++ Topology.setupSteps p) ++
      ((p.members.map fun m => .whenMlag m.switch true [.enableMlag]) ++ post) := by
    rw [hconfigure, Topology.configurePair, Topology.setupSteps]
    simp only [List.append_assoc]
  rw [hsplit] at hes
  obtain ⟨hok, rest, rfl⟩ := Pass.exists_rest hes hnot
  obtain ⟨turn, hturn, hmem⟩ := (Pass.completes hok).exists_turn (List.mem_append_right pre (List.mem_map_of_mem hm))
  have hmem : ∀ e ∈ turn, e ∈ (Pass.plan (pre ++ Topology.setupSteps p)).events f o s ++ rest := fun e he =>
    List.mem_append_left _ (hmem e he)
  cases hturn with
  | whenMlag => exact .inr ⟨hmem _ (by simp), hmem _ (by simp)⟩
  | whenMlag_skip => exact .inl (hmem _ (by simp))

/-- Of two different elements of a list, the second stands before the first if the first does not stand before it. -/
theorem mem_of_splits {α : Type} {before after pre post : List α} {x y : α} (h : before ++ x :: after = pre ++ y :: post)
    (hx : x ∉ pre) (hne : x ≠ y) : y ∈ before := by
  have hfirst : x ∉ pre ++ [y] := by simp [hx, hne]
  have hsplit : (pre ++ [y]) ++ post = before ++ x :: after := by rw [h, List.append_assoc, List.singleton_append]
  obtain ⟨front, rfl, -⟩ := split_append_right hfirst hsplit
  simp

/-- MLAG is configured on a member of a pair with the parameters of the member, and with those of the master on a switch
that is both members. -/
theorem Checked.params_of_call (h : c.Checked) (ht : c.topology = .ok t) (hp : p ∈ t.mlagPairs) {m : String → Bool}
    {label : String} {params : MlagParams} (hmember : p.hasMember label = true)
    (hc : ⟨label, .act (.configureMlag params)⟩ ∈ (Pass.plan t.configure).calls m) :
    params = (if label = p.master.switch then p.master else p.peer).params p.iplChannel := by
  obtain ⟨before, u, after, hconfigure, hu⟩ := Pass.mem_calls_iff.1 hc
  have hmem : ∀ u' ∈ before ++ u :: after, u' ∈ t.configure := fun u' hu' => hconfigure ▸ hu'
  obtain ⟨rfl, ha⟩ := Step.mem_actions_of_mem_calls hu
  obtain ⟨q, hq, member, hm, rfl, hstep⟩ := Topology.mem_configureMlag_of_actions (hmem u (by simp)) ha
  have hswitch : u.switch = member.switch := by rw [hstep]; rfl
  obtain rfl := h.pair_of_hasMember ht hp hq hm (hswitch ▸ hmember)
  by_cases hmaster : u.switch = q.master.switch
  · rw [if_pos hmaster]
    by_contra hother
    -- the master's own step comes first, and leaves MLAG on the switch
    obtain ⟨pre, post, hsplit, hfree⟩ := h.exists_split ht hp
    have hpre : u ∉ pre := fun hu => by cases hfree u (List.mem_append_left _ hu) hmember _ ha
    have hne : u ≠ .whenMlag q.master.switch false [.configureMlag (q.master.params q.iplChannel)] := by
      rintro rfl
      exact hother (Action.configureMlag.inj (List.mem_singleton.1 ha))
    have hfirst := mem_of_splits (hconfigure.symm.trans (hsplit.trans (List.append_assoc ..))) hpre hne
    have hmlag := Pass.mlag_of_whenMlag hfirst
      (fun u' hu' => Topology.quiet_configure (hmem u' (List.mem_append_left _ hu'))) m
    rw [← hmaster, hswitch] at hmlag
    rw [hstep, Step.calls, hmlag] at hu
    simp at hu
  · rw [if_neg hmaster]
    rcases List.mem_pair.1 hm with rfl | rfl
    · exact absurd hswitch hmaster
    · rfl

/-- MLAG is enabled once on each of two members. -/
theorem Checked.count_enableMlag (h : c.Checked) (ht : c.topology = .ok t) (hp : p ∈ t.mlagPairs)
    (htwo : p.master.switch ≠ p.peer.switch) (m : String → Bool) {label : String} (hmember : p.hasMember label = true) :
    ((Pass.plan t.configure).calls m).count ⟨label, .act .enableMlag⟩ = 1 := by
  obtain ⟨pre, post, hconfigure, hfree⟩ := h.exists_split ht hp
  have hnone {us : List Step} (hus : ∀ u ∈ us, p.hasMember u.switch = true → .enableMlag ∉ u.actions)
      (m : String → Bool) : ((Pass.plan us).calls m).count ⟨label, .act .enableMlag⟩ = 0 := by
    refine List.count_eq_zero.2 fun hc => ?_
    obtain ⟨u, hu, rfl, ha⟩ := Pass.exists_step_of_mem_calls hc
    exact hus u hu hmember ha
  have hout : ∀ u ∈ pre ++ post, p.hasMember u.switch = true → .enableMlag ∉ u.actions := fun u hu hs ha => by
    cases hfree u hu hs _ ha
  have hsetup : ∀ u ∈ Topology.setupSteps p, p.hasMember u.switch = true → .enableMlag ∉ u.actions := fun u hu _ ha => by
    obtain ⟨m', -, rfl⟩ := List.mem_map.1 hu
    simp [Step.actions] at ha
  rw [hconfigure, Pass.calls_append, Pass.calls_append, Topology.calls_configurePair, List.count_append,
    List.count_append, List.count_append, hnone fun u hu => hout u (List.mem_append_left _ hu),
    hnone fun u hu => hout u (List.mem_append_right _ hu), hnone hsetup]
  rcases MlagPair.hasMember_iff.1 hmember with rfl | rfl
  · simp [MlagPair.members, htwo.symm]
  · simp [MlagPair.members, htwo]

end Cluster

/-! ## Recording switches -/

namespace Recording

theorem mem_effects {label : String} {es : List Event} {a : Action} :
    a ∈ effects label es ↔ .act label a (.ok ()) ∈ es := by
  rw [effects, List.mem_filterMap]
  constructor
  · rintro ⟨e, he, ha⟩
    exact Event.effect?_eq_some ha ▸ he
  · exact fun h => ⟨_, h, if_pos rfl⟩

/-- As long as MLAG is neither configured nor taken down on a switch, it gives the answer that it gives at first. -/
theorem Truthful.answer_eq {start : String → Bool} {before after : List Event} (h : Truthful start (before ++ after))
    {label : String} (hunset : ∀ a ∈ effects label before, a.mlagSet? = none) {answer : Bool}
    (hquery : .query label (.ok answer) ∈ before) : answer = start label := by
  obtain ⟨asked, since, rfl⟩ := List.append_of_mem hquery
  rw [h asked label answer (since ++ after) (by simp)]
  have hasked : ∀ a ∈ effects label asked, a.mlagSet? = none := fun a ha => by
    refine hunset a ?_
    rw [effects_append]
    exact List.mem_append_left _ ha
  generalize effects label asked = as at hasked
  induction as with
  | nil => rfl
  | cons a as ih =>
    obtain ⟨ha, has⟩ := List.forall_mem_cons.1 hasked
    rw [mlagOf, List.foldl_cons, mlagAfter_eq, ha]
    exact ih has

variable {c : Cluster} {t : Topology} {π : Type} {o : Operator π} {s : PassState Recording π}

/-- The order in which a pair is brought up. -/
theorem enabledLast_configure (h : c.Checked) (ht : c.topology = .ok t) {p : MlagPair} (hp : p ∈ t.mlagPairs) :
    p.EnabledLast ((Pass.plan t.configure).events fleet o s) := by
  intro before label outcome after hes hmember m hm
  have hsetup := h.setup_before_enable ht hp hmember hes hm
  refine ⟨hsetup.elim (fun hq => ⟨_, hq⟩) fun hq => ⟨_, hq.1⟩, fun hno => ?_⟩
  rcases hsetup with hyes | ⟨-, hact⟩
  · -- a switch that has said both has been changed in between, and nothing takes MLAG down
    by_contra hnot
    have htruthful := truthful_of_happens (Plan.happens_events fleet o (Pass.plan t.configure) s)
    have hunset : ∀ a ∈ effects m.switch before, a.mlagSet? = none := fun a ha => by
      rw [mem_effects] at ha
      obtain ⟨u, hu, hpermits⟩ := Pass.permits_of_mem_events fleet o (hes ▸ List.mem_append_left _ ha)
      cases a with
      | configureMlag params => exact absurd ⟨params, ha⟩ hnot
      | deconfigureMlag => exact absurd hpermits.mem_actions.2 (Topology.quiet_configure hu).2
      | _ => rfl
    rw [hes] at htruthful
    exact Bool.false_ne_true ((htruthful.answer_eq hunset hno).trans (htruthful.answer_eq hunset hyes).symm)
  · exact ⟨_, hact⟩

/-- The members of a pair are brought up together. A definition that passes its checks is configured on recording
switches that never fail, whichever of them have MLAG at first. The pass ends well. MLAG is enabled on a member of a pair
only when both have been asked and those that said no have had it configured, and once on each of two members. It is
configured with the lowest port of the master's link as number on both, with the VLAN, the ports and the address of the
member's own link, with the address of the other's as that of the peer, and without virtual address on the master. -/
theorem brought_up_together (hcheck : c.check = .ok ()) (ht : c.topology = .ok t)
    {switches : SortedMap String RecordingSwitch} (hcover : ∀ label ∈ t.switches, switches.contains label = true)
    (hsound : ∀ s ∈ switches.values, s.failOn = none) (o : Operator π) (operator : π) :
    let run := Pass.run fleet o t t.configure ⟨start switches, operator⟩
    let es := Pass.events fleet o t t.configure ⟨start switches, operator⟩
    let log := run.2.fleet.log
    run.1 = .ok () ∧ log = es.filterMap Event.call? ∧ ∀ p ∈ t.mlagPairs, p.EnabledLast es ∧
      (p.master.switch ≠ p.peer.switch → ∀ m ∈ p.members, log.count ⟨m.switch, .act .enableMlag⟩ = 1) ∧
      ∃ s ∈ c.switches, ∃ s' ∈ c.switches, s.label = p.master.switch ∧ s'.label = p.peer.switch ∧
        ∃ l l', l.IsFirstTo s'.label s.links ∧ l'.IsFirstTo s.label s'.links ∧
          ∃ channel ∈ l.ports, (∀ port ∈ l.ports, channel ≤ port) ∧
            ∀ label params, p.hasMember label = true → ⟨label, .act (.configureMlag params)⟩ ∈ log →
              params.channel = channel ∧ (label = p.master.switch → params.Matches l l' ∧ params.vip = none) ∧
                (label ≠ p.master.switch → params.Matches l' l) := by
  intro run es log
  have h := Cluster.checked_of_check hcheck
  have hcovered := covered_of_contains (r := start switches) hcover
  obtain ⟨hok, hlog, -⟩ := configure_of_sound o t ⟨start switches, operator⟩ (sound_of_failOn hsound) hcovered
  have hcalls : log = (Pass.plan t.configure).calls (start switches).mlag := hlog.trans (List.nil_append _)
  refine ⟨hok, (log_pass o t t.configure ⟨start switches, operator⟩).trans (List.nil_append _), fun p hp => ⟨?_, ?_, ?_⟩⟩
  · show p.EnabledLast (Pass.events fleet o t t.configure ⟨start switches, operator⟩)
    rw [Pass.events_of_covered fleet o hcovered]
    exact enabledLast_configure h ht hp
  · intro htwo m hm
    rw [hcalls]
    exact h.count_enableMlag ht hp htwo _ (MlagPair.hasMember_of_mem hm)
  · obtain ⟨s, hs, s', hs', l, l', hmaster, hpeer, hip, hip', hvip, -⟩ :=
      Cluster.exists_links (Cluster.topology_eq_ok ht).2.2.2 hp
    refine ⟨s, hs, s', hs', hmaster.switch.symm, hpeer.switch.symm, l, l', hmaster.first, hpeer.first,
      p.iplChannel, ?_, ?_, fun label params hmember hc => ?_⟩
    · rw [hmaster.ports]
      exact p.master.ports.channel_mem
    · rw [hmaster.ports]
      exact fun port hport => List.min_le_of_mem hport
    · rw [hcalls] at hc
      rw [h.params_of_call ht hp hmember hc]
      refine ⟨rfl, fun hl => ?_, fun hl => ?_⟩
      · rw [if_pos hl]
        exact ⟨hmaster.matches hpeer hip _, hvip⟩
      · rw [if_neg hl]
        exact hpeer.matches hmaster hip' _

/-- Of the pair of the scenario the first member has MLAG already. The second has it configured, with the number of the
first, before it is enabled on both. -/
theorem brought_up_together_mlagPair :
    let t := Scenario.mlagPair.topology
    let switches := SortedMap.ofList [("data_1", ⟨true, none⟩), ("data_2", ⟨false, none⟩)]
    let run := Pass.run fleet Script.operator t t.configure ⟨start switches, ⟨[], []⟩⟩
    run.1 = .ok () ∧ ∃ p ∈ t.mlagPairs,
      p.EnabledLast (Pass.events fleet Script.operator t t.configure ⟨start switches, ⟨[], []⟩⟩) ∧
      (∀ label ∈ ["data_1", "data_2"], run.2.fleet.log.count ⟨label, .act .enableMlag⟩ = 1) ∧
      iplNumbers "data_1" run.2.fleet.log = [] ∧ iplNumbers "data_2" run.2.fleet.log = [29] := by
  intro t switches
  have hcheck : Scenario.mlagPair.cluster.check = .ok () := rfl
  have hcover : ∀ label ∈ t.switches, switches.contains label = true := by decide +kernel
  have hsound : ∀ s ∈ switches.values, s.failOn = none := by decide +kernel
  have ht : Scenario.mlagPair.cluster.topology = .ok t := Scenario.topology_cluster .mlagPair
  obtain ⟨hok, -, hpairs⟩ := brought_up_together hcheck ht hcover hsound Script.operator ⟨[], []⟩
  have hp := List.get_mem t.mlagPairs ⟨0, by decide +kernel⟩
  obtain ⟨hlast, hcount, -⟩ := hpairs _ hp
  have htwo := hcount (by decide +kernel)
  have hlabels : (t.mlagPairs.get ⟨0, by decide +kernel⟩).members.map (·.switch) = ["data_1", "data_2"] := by
    decide +kernel
  refine ⟨hok, _, hp, hlast, fun label hl => ?_, by decide +kernel, by decide +kernel⟩
  rw [← hlabels] at hl
  obtain ⟨m, hm, rfl⟩ := List.mem_map.1 hl
  exact htwo m hm

end Recording

end SwitchFabric
