import SwitchFabric.Cluster.Check
import SwitchFabric.Proofs.Traversal

/-!
# Peers and masters in a checked definition

What the checks establish (`Checked`, `checked_of_check`): a label finds its switch, bindings name switches, and
peers name each other (`Checked.mlagPeer_symm`) and agree on their master (`Checked.masterOf_comm`). Two switches
that have one master are peers (`Checked.peers_of_masterOf_eq`).
-/

namespace SwitchFabric.Cluster

variable {c : Cluster}

/-- The labels of the data switches. -/
def labels (c : Cluster) : List String := c.switches.map (·.label)

/-- What the checks establish. -/
structure Checked (c : Cluster) : Prop where
  nodup : c.labels.Nodup
  peers : ∀ s ∈ c.switches, c.checkPeer s = .ok ()
  bindings : ∀ t ∈ c.templates, ∀ b ∈ t.bindings, c.checkBinding t.label b = .ok ()

theorem nodup_of_repeatedLabel {seen labels : List String} (h : repeatedLabel seen labels = none) :
    labels.Nodup ∧ ∀ label ∈ labels, label ∉ seen := by
  induction labels generalizing seen with
  | nil => exact ⟨List.nodup_nil, nofun⟩
  | cons label labels ih =>
    rw [repeatedLabel] at h
    split at h
    · cases h
    · next hseen =>
      obtain ⟨hnodup, hnot⟩ := ih h
      have hlabel : label ∉ labels := fun hm => hnot label hm List.mem_cons_self
      refine ⟨List.nodup_cons.2 ⟨hlabel, hnodup⟩, List.forall_mem_cons.2 ⟨?_, fun l hl hs => ?_⟩⟩
      · simpa using hseen
      · exact hnot l hl (List.mem_cons_of_mem _ hs)

theorem checked_of_check (h : c.check = .ok ()) : c.Checked := by
  unfold check at h
  cases hl : repeatedLabel [] (c.switches.map (·.label)) with
  | some label =>
    rw [hl] at h
    cases h
  | none =>
    rw [hl] at h
    obtain ⟨⟨⟩, -, h⟩ := bind_eq_ok.1 h
    obtain ⟨⟨⟩, hpeers, h⟩ := bind_eq_ok.1 h
    refine ⟨(nodup_of_repeatedLabel hl).1, forM_ok_iff.1 hpeers, fun t ht => ?_⟩
    exact forM_ok_iff.1 (forM_ok_iff.1 h t ht)

/-! ## Switches by label -/

theorem switch?_eq_some {label : String} {s : SwitchRecord} (h : c.switch? label = some s) :
    s ∈ c.switches ∧ s.label = label :=
  ⟨List.mem_of_find?_eq_some h, by simpa using List.find?_some h⟩

theorem mem_labels_of_switch? {label : String} {s : SwitchRecord} (h : c.switch? label = some s) :
    label ∈ c.labels := by
  obtain ⟨hs, hl⟩ := switch?_eq_some h
  rw [← hl]
  exact List.mem_map_of_mem hs

/-- A label finds its switch. -/
theorem Checked.switch?_of_mem (h : c.Checked) {s : SwitchRecord} (hs : s ∈ c.switches) :
    c.switch? s.label = some s := by
  have hnodup : (c.switches.map (·.label)).Nodup := h.nodup
  unfold switch?
  generalize c.switches = switches at hs hnodup
  induction switches with
  | nil => cases hs
  | cons s' switches ih =>
    rw [List.map_cons, List.nodup_cons] at hnodup
    rcases List.mem_cons.1 hs with rfl | hs
    · rw [List.find?_cons_of_pos (by simp)]
    · have hne : s'.label ≠ s.label := fun he => hnodup.1 (he ▸ List.mem_map_of_mem hs)
      rw [List.find?_cons_of_neg (by simpa using hne)]
      exact ih hs hnodup.2

/-- A binding names a switch. -/
theorem Checked.binding_mem_labels (h : c.Checked) {t : NodeTemplate} (ht : t ∈ c.templates)
    {b : Binding} (hb : b ∈ t.bindings) : b.switch ∈ c.labels := by
  have hok := h.bindings t ht b hb
  unfold checkBinding at hok
  cases hs : c.switch? b.switch with
  | none =>
    rw [hs] at hok
    cases hok
  | some s => exact mem_labels_of_switch? hs

/-! ## Peers -/

/-- What the check of a switch's peer establishes. -/
theorem Checked.peer (h : c.Checked) {s : SwitchRecord} (hs : s ∈ c.switches) {label : String}
    (hlabel : s.mlagPeer = some label) :
    ∃ peer ∈ c.switches, c.switch? label = some peer ∧ peer.label = label ∧
      peer.mlagPeer = some s.label ∧ (s.mlagMaster && peer.mlagMaster) = false := by
  have hok := h.peers s hs
  unfold checkPeer at hok
  rw [hlabel] at hok
  dsimp only at hok
  cases hp : c.switch? label with
  | none =>
    rw [hp] at hok
    cases hok
  | some peer =>
    rw [hp] at hok
    dsimp only at hok
    obtain ⟨hmem, hl⟩ := switch?_eq_some hp
    by_cases hback : peer.mlagPeer = some s.label
    · rw [if_neg (by simpa using hback)] at hok
      cases hm : s.mlagMaster && peer.mlagMaster with
      | true =>
        rw [hm] at hok
        cases hok
      | false => exact ⟨peer, hmem, rfl, hl, hback, hm⟩
    · rw [if_pos (by simpa using hback)] at hok
      cases hok

theorem mlagPeer_eq_some {label peer : String} :
    c.mlagPeer label = some peer ↔ ∃ s, c.switch? label = some s ∧ s.mlagPeer = some peer := by
  rw [mlagPeer, Option.bind_eq_some_iff]

/-- Peers name each other. -/
theorem Checked.mlagPeer_symm (h : c.Checked) {label peer : String} (hp : c.mlagPeer label = some peer) :
    c.mlagPeer peer = some label := by
  obtain ⟨s, hs, hpeer⟩ := mlagPeer_eq_some.1 hp
  obtain ⟨hmem, rfl⟩ := switch?_eq_some hs
  obtain ⟨p, -, hp, -, hback, -⟩ := h.peer hmem hpeer
  exact mlagPeer_eq_some.2 ⟨p, hp, hback⟩

/-! ## Masters -/

theorem masterOf_none (label : String) : c.masterOf label none = label := rfl

/-- The master is one of the two. -/
theorem masterOf_or (label peer : String) :
    c.masterOf label (some peer) = label ∨ c.masterOf label (some peer) = peer := by
  rw [masterOf]
  split
  · exact .inl rfl
  · split
    · exact .inr rfl
    · split
      · exact .inr rfl
      · exact .inl rfl

/-- Peers are not both flagged as masters. -/
theorem Checked.not_isFlagged (h : c.Checked) {label peer : String} (hp : c.mlagPeer label = some peer)
    (hf : c.isFlagged label = true) : c.isFlagged peer = false := by
  obtain ⟨s, hs, hpeer⟩ := mlagPeer_eq_some.1 hp
  obtain ⟨hmem, rfl⟩ := switch?_eq_some hs
  obtain ⟨p, -, hp, -, -, hboth⟩ := h.peer hmem hpeer
  rw [isFlagged, hs] at hf
  rw [isFlagged, hp]
  have hs' : s.mlagMaster = true := hf
  rw [hs', Bool.true_and] at hboth
  exact hboth

/-- Peers agree on their master. -/
theorem Checked.masterOf_comm (h : c.Checked) {label peer : String} (hp : c.mlagPeer label = some peer) :
    c.masterOf label (some peer) = c.masterOf peer (some label) := by
  rw [masterOf, masterOf]
  cases hl : c.isFlagged label with
  | true =>
    rw [h.not_isFlagged hp hl]
    rfl
  | false =>
    cases hf : c.isFlagged peer with
    | true => rfl
    | false =>
      rw [if_neg Bool.false_ne_true, if_neg Bool.false_ne_true, if_neg Bool.false_ne_true,
        if_neg Bool.false_ne_true]
      by_cases hlt : peer < label
      · rw [if_pos hlt, if_neg (String.lt_asymm hlt)]
      · by_cases hgt : label < peer
        · rw [if_neg hlt, if_pos hgt]
        · rw [if_neg hlt, if_neg hgt]
          exact String.le_antisymm (String.not_lt.1 hlt) (String.not_lt.1 hgt)

/-- Two switches with one master are peers, and the master is one of them. -/
theorem Checked.peers_of_masterOf_eq (h : c.Checked) {a b : String} (hne : a ≠ b)
    (heq : c.masterOf a (c.mlagPeer a) = c.masterOf b (c.mlagPeer b)) :
    c.mlagPeer a = some b ∧ c.mlagPeer b = some a := by
  -- a switch other than the master has the master as its peer
  have hpeer {x : String} (hx : c.masterOf x (c.mlagPeer x) ≠ x) :
      c.mlagPeer x = some (c.masterOf x (c.mlagPeer x)) := by
    cases hp : c.mlagPeer x with
    | none =>
      rw [hp] at hx
      exact absurd (masterOf_none x) hx
    | some peer =>
      rw [hp] at hx
      rcases masterOf_or (c := c) x peer with hm | hm
      · exact absurd hm hx
      · rw [hm]
  by_cases ha : c.masterOf a (c.mlagPeer a) = a
  · have hb : c.mlagPeer b = some a := by
      rw [hpeer (fun hb => hne ((ha.symm.trans heq).trans hb)), ← heq, ha]
    exact ⟨h.mlagPeer_symm hb, hb⟩
  · have hpa := hpeer ha
    by_cases hb : c.masterOf b (c.mlagPeer b) = b
    · rw [heq, hb] at hpa
      exact ⟨hpa, h.mlagPeer_symm hpa⟩
    · -- the master would have two peers
      have hpb := hpeer hb
      rw [← heq] at hpb
      have htwo := (h.mlagPeer_symm hpa).symm.trans (h.mlagPeer_symm hpb)
      exact absurd (Option.some.inj htwo) hne

end SwitchFabric.Cluster
