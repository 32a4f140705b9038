import Mathlib.Data.List.Count
import Mathlib.Data.List.Nodup
import SwitchFabric.Cluster.Builder
import SwitchFabric.Proofs.Topology.Members

/-!
# The MLAG pairs of a checked definition

Each switch that names a peer is in one pair and no other switch is in any (`Checked.countP_hasMember`). The pairs
stand in the order of their masters (`sublist_masters`), and each member is set up as the first link to its partner
says (`MlagMember.Follows`).

The two members of a pair name each other, which does not make them two switches: a definition whose switch names
itself passes the checks, and the switch is paired with itself (`selfPaired`). `pairs_of_peers` says that this is the
only way.
-/

namespace SwitchFabric

/-- The link is the first of a list that leads to a switch. -/
def Link.IsFirstTo (l : Link) (target : String) (links : List Link) : Prop :=
  l.target = target ∧ ∃ before after, links = before ++ l :: after ∧ ∀ l' ∈ before, l'.target ≠ target

/-- The member of a pair is set up as the switch's first link to its partner says. -/
structure MlagMember.Follows (m : MlagMember) (s : SwitchRecord) (l : Link) (partner : String) : Prop where
  switch : m.switch = s.label
  first : l.IsFirstTo partner s.links
  vlan : l.vlan = some m.vlan
  ports : l.ports = m.ports.ports
  address : l.ip = some m.cidr.address
  length : l.length = some m.cidr.length

/-- The switch is a member of the pair. -/
def MlagPair.hasMember (p : MlagPair) (label : String) : Bool := p.members.any (·.switch == label)

theorem MlagPair.hasMember_iff {p : MlagPair} {label : String} :
    p.hasMember label = true ↔ p.master.switch = label ∨ p.peer.switch = label := by
  simp [hasMember, members]

namespace Cluster

variable {c : Cluster}

/-! ## Links -/

theorem needed_eq_ok {α : Type} {s : SwitchRecord} {peer field : String} {o : Option α} {a : α} :
    needed s peer field o = .ok a ↔ o = some a := by
  cases o <;> simp [needed]

theorem linkPrefix_eq_ok {address : IpAddress} {length : Nat} {p : IpPrefix}
    (h : linkPrefix address length = .ok p) : p.address = address ∧ p.length = length := by
  unfold linkPrefix IpPrefix.ofAddress at h
  split at h
  · cases h
    exact ⟨rfl, rfl⟩
  · cases h

/-- What the inter-peer link of a switch takes from its first link to the peer. -/
theorem iplLink_eq_ok {s : SwitchRecord} {peer : String} {own : IplLink} (h : iplLink s peer = .ok own) :
    ∃ l : Link, l.IsFirstTo peer s.links ∧ l.vlan = some own.vlan ∧ l.ports = own.ports.ports ∧
      l.ip = some own.cidr.address ∧ l.length = some own.cidr.length ∧ l.vip = own.vip := by
  unfold iplLink at h
  cases hl : s.links.find? (·.target == peer) with
  | none =>
    rw [hl] at h
    cases h
  | some l =>
    rw [hl] at h
    obtain ⟨vlan, hvlan, h⟩ := bind_eq_ok.1 h
    obtain ⟨ports, hports, h⟩ := bind_eq_ok.1 h
    obtain ⟨ip, hip, h⟩ := bind_eq_ok.1 h
    obtain ⟨length, hlength, h⟩ := bind_eq_ok.1 h
    obtain ⟨cidr, hcidr, h⟩ := bind_eq_ok.1 h
    cases h
    obtain ⟨htarget, before, after, heq, hbefore⟩ := List.find?_eq_some_iff_append.1 hl
    have hgroup : PortGroup.ofPorts l.ports = some ports := needed_eq_ok.1 hports
    obtain ⟨rfl, rfl⟩ := linkPrefix_eq_ok hcidr
    refine ⟨l, ⟨by simpa using htarget, before, after, heq, ?_⟩, needed_eq_ok.1 hvlan, ?_,
      needed_eq_ok.1 hip, needed_eq_ok.1 hlength, rfl⟩
    · intro l' hl'
      simpa using hbefore l' hl'
    · unfold PortGroup.ofPorts at hgroup
      split at hgroup
      · cases hgroup
        rfl
      · cases hgroup

/-- The virtual address of a pair is that of the link, in the first management network with a length. -/
theorem mlagVip_eq_ok {address : Option IpAddress} {vip : Option IpPrefix}
    (h : c.mlagVip address = .ok vip) :
    address = vip.map (·.address) ∧
      ∀ v ∈ vip, c.mgmtNetworks.findSome? (·.length) = some v.length := by
  cases address with
  | none =>
    cases h
    exact ⟨rfl, nofun⟩
  | some a =>
    obtain ⟨n, hn, h⟩ := bind_eq_ok.1 h
    obtain ⟨p, hp, h⟩ := bind_eq_ok.1 h
    cases h
    obtain ⟨rfl, rfl⟩ := linkPrefix_eq_ok hp
    have hmgmt : c.mgmtNetworks.findSome? (·.length) = some p.length := by
      unfold mgmtLength at hn
      split at hn
      · next hfound =>
        cases hn
        exact hfound
      · cases hn
    refine ⟨rfl, fun v hv => ?_⟩
    cases hv
    exact hmgmt

/-! ## Which pairs there are -/

/-- The pairs stand in the order of their masters. -/
theorem sublist_masters {pairs : List MlagPair} (hp : c.mlagPairs = .ok pairs) :
    (pairs.map (·.master.switch)).Sublist c.labels := by
  obtain ⟨found, hfound, hp⟩ := bind_eq_ok.1 hp
  cases hp
  have h := forall₂_of_mapM hfound
  rw [labels]
  generalize c.switches = switches at h
  clear hp hfound
  induction h with
  | nil => exact List.Sublist.slnil
  | @cons s r _ _ hr _ ih =>
    cases r with
    | none => exact ih.cons _
    | some p =>
      have hmaster : p.master.switch = s.label := master_switch_of_mlagPairOf hr
      simpa [hmaster] using ih

theorem Checked.nodup_mlagPairs (h : c.Checked) {pairs : List MlagPair} (hp : c.mlagPairs = .ok pairs) :
    pairs.Nodup :=
  (h.nodup.sublist (sublist_masters hp)).of_map _

/-- The members of a pair name each other. -/
theorem Checked.peers_of_mem (h : c.Checked) {pairs : List MlagPair} (hp : c.mlagPairs = .ok pairs)
    {p : MlagPair} (hmem : p ∈ pairs) :
    c.mlagPeer p.master.switch = some p.peer.switch ∧ c.mlagPeer p.peer.switch = some p.master.switch := by
  have hpeer := (h.mem_mlagPairs hp hmem).2.2.1
  exact ⟨hpeer, h.mlagPeer_symm hpeer⟩

/-- A switch with a peer is a member of one pair, and a switch without is a member of none. -/
theorem Checked.countP_hasMember (h : c.Checked) {pairs : List MlagPair} (hp : c.mlagPairs = .ok pairs)
    (label : String) :
    pairs.countP (·.hasMember label) = if (c.mlagPeer label).isSome then 1 else 0 := by
  cases hpeer : c.mlagPeer label with
  | none =>
    have hnone : ∀ p ∈ pairs, ¬ p.hasMember label = true := by
      intro p hmem hmember
      obtain ⟨hmaster, hback⟩ := h.peers_of_mem hp hmem
      rcases MlagPair.hasMember_iff.1 hmember with rfl | rfl
      · simp [hpeer] at hmaster
      · simp [hpeer] at hback
    simpa using List.countP_eq_zero.2 hnone
  | some peer =>
    obtain ⟨p, hmem, -, hor⟩ := h.exists_pair hp hpeer
    have hown : p.hasMember label = true :=
      MlagPair.hasMember_iff.2 (hor.imp And.left And.right)
    have honly : ∀ q ∈ pairs, q.hasMember label = true ↔ (q == p) = true := by
      intro q hq
      rw [beq_iff_eq]
      constructor
      · intro hmember
        obtain ⟨m, hm, hs⟩ := List.any_eq_true.1 hmember
        obtain ⟨m', hm', hs'⟩ := List.any_eq_true.1 hown
        refine h.pair_unique hp hq hmem hm hm' ?_
        rw [beq_iff_eq.1 hs, beq_iff_eq.1 hs']
      · rintro rfl
        exact hown
    have hcount : pairs.count p = 1 := List.count_eq_one_of_mem (h.nodup_mlagPairs hp) hmem
    rw [List.countP_congr honly, ← List.count, hcount]
    rfl

/-- The members of a pair follow the links of two data switches, to each other. -/
theorem exists_links {pairs : List MlagPair} (hp : c.mlagPairs = .ok pairs)
    {p : MlagPair} (hmem : p ∈ pairs) :
    ∃ s ∈ c.switches, ∃ s' ∈ c.switches, ∃ l l',
      p.master.Follows s l s'.label ∧ p.peer.Follows s' l' s.label ∧
      p.master.peerIp = p.peer.cidr.address ∧ p.peer.peerIp = p.master.cidr.address ∧
      p.master.vip = none ∧ l'.vip = p.peer.vip.map (·.address) ∧
      ∀ v ∈ p.peer.vip, c.mgmtNetworks.findSome? (·.length) = some v.length := by
  obtain ⟨s, hs, hpair⟩ := (Cluster.mem_mlagPairs hp).1 hmem
  obtain ⟨hnone, -⟩ | ⟨label, peer, own, other, vip, -, -, hswitch, hown, hother, hvip, heq⟩ :=
    mlagPairOf_cases hpair
  · cases hnone
  cases heq
  obtain ⟨hpmem, rfl⟩ := switch?_eq_some hswitch
  obtain ⟨l, hfirst, hvlan, hports, hip, hlength, -⟩ := iplLink_eq_ok hown
  obtain ⟨l', hfirst', hvlan', hports', hip', hlength', haddress⟩ := iplLink_eq_ok hother
  obtain ⟨hvip, hmgmt⟩ := mlagVip_eq_ok hvip
  refine ⟨s, hs, peer, hpmem, l, l', ⟨rfl, hfirst, hvlan, hports, hip, hlength⟩,
    ⟨rfl, hfirst', hvlan', hports', hip', hlength'⟩, rfl, rfl, rfl, ?_, hmgmt⟩
  rw [haddress, hvip]

/-- No switch is its own peer if none names itself. -/
theorem mlagPeer_ne_self (h : ∀ s ∈ c.switches, s.mlagPeer ≠ some s.label) (label : String) :
    c.mlagPeer label ≠ some label := by
  intro hself
  obtain ⟨s, hs, hsame⟩ := mlagPeer_eq_some.1 hself
  obtain ⟨hmem, rfl⟩ := switch?_eq_some hs
  exact h s hmem hsame

/-- The pairs of a definition that passes its checks. They stand in the order of their masters. A switch that names
a peer is a member of one of them, and no other switch is a member of any. The members of a pair name each other, and
each is set up as its first link to the other says: with the link's VLAN and ports, its own address and the
partner's, and on the peer the link's virtual address in the management network. The members of a pair are two
switches unless a switch names itself, which the checks let pass. -/
theorem pairs_of_peers (hcheck : c.check = .ok ()) {pairs : List MlagPair} (hp : c.mlagPairs = .ok pairs) :
    (pairs.map (·.master.switch)).Sublist c.labels ∧ c.labels.Nodup ∧
    (∀ label, pairs.countP (·.hasMember label) = if (c.mlagPeer label).isSome then 1 else 0) ∧
    (∀ p ∈ pairs,
      (c.mlagPeer p.master.switch = some p.peer.switch ∧ c.mlagPeer p.peer.switch = some p.master.switch) ∧
      ∃ s ∈ c.switches, ∃ s' ∈ c.switches, ∃ l l',
        p.master.Follows s l s'.label ∧ p.peer.Follows s' l' s.label ∧
        p.master.peerIp = p.peer.cidr.address ∧ p.peer.peerIp = p.master.cidr.address ∧
        p.master.vip = none ∧ l'.vip = p.peer.vip.map (·.address) ∧
        ∀ v ∈ p.peer.vip, c.mgmtNetworks.findSome? (·.length) = some v.length) ∧
    ((∀ p ∈ pairs, p.master.switch ≠ p.peer.switch) ↔ ∀ label, c.mlagPeer label ≠ some label) := by
  have h := checked_of_check hcheck
  refine ⟨sublist_masters hp, h.nodup, h.countP_hasMember hp,
    fun p hmem => ⟨h.peers_of_mem hp hmem, exists_links hp hmem⟩, fun htwo label hself => ?_,
    fun hnot p hmem heq => ?_⟩
  · obtain ⟨p, hmem, -, hor⟩ := h.exists_pair hp hself
    have hsame : p.master.switch = p.peer.switch := by
      rcases hor with ⟨hm, hp'⟩ | ⟨hm, hp'⟩ <;> rw [hm, hp']
    exact htwo p hmem hsame
  · have hself := (h.peers_of_mem hp hmem).1
    rw [← heq] at hself
    exact hnot _ hself

/-- On the pair of the scenario the peer has the virtual address of its link, in the management network. -/
theorem pairs_of_peers_mlagPair :
    let pairs := Scenario.mlagPair.topology.mlagPairs
    pairs.map (·.master.switch) = ["data_1"] ∧ pairs.countP (·.hasMember "data_2") = 1 ∧
      ∀ p ∈ pairs, p.master.switch ≠ p.peer.switch := by
  intro pairs
  have hpairs : Scenario.mlagPair.cluster.mlagPairs = .ok pairs :=
    (topology_eq_ok (Scenario.topology_cluster .mlagPair)).2.2.2
  obtain ⟨-, -, hcount, -, htwo⟩ := pairs_of_peers (c := Scenario.mlagPair.cluster) rfl hpairs
  have hpeer : Scenario.mlagPair.cluster.mlagPeer "data_2" = some "data_1" := rfl
  exact ⟨by decide +kernel, by simpa [hpeer] using hcount "data_2", htwo.2 (mlagPeer_ne_self (by decide +kernel))⟩

/-- A switch that names itself as its peer and has a link to itself. -/
def selfPaired : Cluster :=
  Cluster.bare.withSwitch "data_1"
    |>.withPeer "data_1" "data_1" ⟨[29, 30], 4000, "10.0.0.1", 30, none⟩ false

/-- A switch can be paired with itself. -/
theorem pair_of_one_switch :
    selfPaired.check = .ok () ∧ ∃ pairs, selfPaired.mlagPairs = .ok pairs ∧
      ∃ p ∈ pairs, p.master.switch = p.peer.switch := by
  refine ⟨rfl, _, rfl, _, List.mem_singleton_self _, rfl⟩

end Cluster

end SwitchFabric
