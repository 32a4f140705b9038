import SwitchFabric.Proofs.Switch.State

/-!
# The VLANs that ports and LAGs carry

A port or a LAG of a switch may carry a VLAN only while the switch has it (`CarriedExist`). An action keeps this if
the switch has the VLANs that the action puts onto a port or a LAG, and if nothing carries a VLAN that it deletes
(`Admits`). Actions that are admitted one after the other keep it at each point (`carriedExist_of_prefix`).
-/

namespace SwitchFabric

/-- A port channel carries what it carried before it was changed, and the VLANs that the change adds. -/
theorem PortChannel.mem_vlans_touch {channel k : Nat} {f : PortChannel → PortChannel} {added : List VlanId}
    (hf : ∀ c, (f c).vlans = c.vlans ++ added) {channels : Nat → Option PortChannel} {c : PortChannel}
    (h : touch channel f channels k = some c) {v : VlanId} (hv : v ∈ c.vlans) :
    (∃ k c, channels k = some c ∧ v ∈ c.vlans) ∨ v ∈ added := by
  rw [touch, Function.update_apply] at h
  split at h
  · cases h
    rw [hf, List.mem_append] at hv
    refine hv.imp_left fun hv => ?_
    cases hc : channels channel with
    | none => simp [hc, bare] at hv
    | some c => exact ⟨channel, c, hc, by simpa [hc] using hv⟩
  · exact .inl ⟨k, c, h, hv⟩

namespace SwitchState

variable {s : SwitchState} {a : Action} {as bs : List Action} {v : VlanId}

/-- The VLANs that an action puts onto a port or a LAG. -/
def brought : Action → List VlanId
  | .addVlansToPort _ vlans | .addVlansToLagPortChannel _ vlans => vlans
  | _ => []

/-- A port or a LAG of the switch carries the VLAN. -/
def Carries (s : SwitchState) (v : VlanId) : Prop :=
  (∃ port, s.portVlans port v = true) ∨ ∃ channel c, s.lags channel = some c ∧ v ∈ c.vlans

/-- The switch has every VLAN that one of its ports or LAGs carries. -/
def CarriedExist (s : SwitchState) : Prop := ∀ v, s.Carries v → s.vlans v = true

/-- The switch has the VLANs that the action puts onto a port or a LAG, and nothing carries one that it deletes. -/
def Admits (s : SwitchState) (a : Action) : Prop :=
  (∀ v ∈ brought a, s.vlans v = true) ∧ ∀ v, a = .deleteVlan v → ¬ s.Carries v

/-- The switch admits the actions, one after the other. -/
def Admitted (s : SwitchState) : List Action → Prop
  | [] => True
  | a :: as => s.Admits a ∧ (s.apply a).Admitted as

theorem not_carries (hport : ∀ port, s.Blank (.portVlan port v)) (hlag : ∀ channel, s.Blank (.lag channel)) :
    ¬ s.Carries v := by
  rintro (⟨port, h⟩ | ⟨channel, c, h, -⟩)
  · have hblank : s.portVlans port v = false := hport port
    simp [hblank] at h
  · have hblank : s.lags channel = none := hlag channel
    simp [hblank] at h

theorem carriedExist_empty : empty.CarriedExist := fun v h =>
  absurd h (not_carries (fun port => eq_empty_iff.1 rfl (.portVlan port v)) fun channel =>
    eq_empty_iff.1 rfl (.lag channel))

/-! ## One action -/

/-- What is carried after an action was carried before, or the action has brought it. -/
theorem carries_apply (h : (s.apply a).Carries v) : s.Carries v ∨ v ∈ brought a := by
  -- the actions that change a LAG
  have hlag {channel : Nat} {f : PortChannel → PortChannel} {added : List VlanId}
      (hf : ∀ c, (f c).vlans = c.vlans ++ added)
      (h : Carries { s with lags := PortChannel.touch channel f s.lags } v) : s.Carries v ∨ v ∈ added := by
    rcases h with h | ⟨k, c, hk, hv⟩
    · exact .inl (.inl h)
    · exact (PortChannel.mem_vlans_touch hf hk hv).imp_left .inr
  cases a with
  | addVlansToPort port vlans =>
    rcases h with ⟨p, h⟩ | h
    · simp only [apply, Function.update_apply] at h
      split at h
      · rw [Bool.or_eq_true] at h
        rcases h with h | h
        · exact .inr (by simpa [brought] using h)
        · exact .inl (.inl ⟨port, h⟩)
      · exact .inl (.inl ⟨p, h⟩)
    · exact .inl (.inr h)
  | removeVlansFromPort port vlans =>
    rcases h with ⟨p, h⟩ | h
    · simp only [apply, Function.update_apply] at h
      split at h
      · rw [Bool.and_eq_true] at h
        exact .inl (.inl ⟨port, h.2⟩)
      · exact .inl (.inl ⟨p, h⟩)
    · exact .inl (.inr h)
  | createLagInterface channel => exact hlag (fun c => by simp [brought]) h
  | bindPortsToLagInterface ports channel => exact hlag (fun c => by simp [PortChannel.bind, brought]) h
  | addVlansToLagPortChannel channel vlans => exact hlag (fun c => rfl) h
  | setMtuForLagPortChannel channel mtu => exact hlag (fun c => by simp [PortChannel.setMtu, brought]) h
  | removeLagInterface channel =>
    rcases h with h | ⟨k, c, hk, hv⟩
    · exact .inl (.inl h)
    · simp only [apply, Function.update_apply] at hk
      split at hk
      · cases hk
      · exact .inl (.inr ⟨k, c, hk, hv⟩)
  | removeChannelGroup port =>
    rcases h with h | ⟨k, c, hk, hv⟩
    · exact .inl (.inl h)
    · obtain ⟨c, hc, rfl⟩ := Option.map_eq_some_iff.1 hk
      exact .inl (.inr ⟨k, c, hc, hv⟩)
  | _ => exact .inl h

/-- A VLAN is there until it is deleted. -/
theorem vlans_apply (h : s.vlans v = true) (ha : a ≠ .deleteVlan v) : (s.apply a).vlans v = true := by
  cases a with
  | createVlan w =>
    simp only [apply, Function.update_apply]
    split
    · rfl
    · exact h
  | deleteVlan w =>
    simp only [apply, Function.update_apply]
    rw [if_neg fun hw => ha (by rw [hw])]
    exact h
  | _ => exact h

theorem carriedExist_apply (h : s.CarriedExist) (ha : s.Admits a) : (s.apply a).CarriedExist := by
  intro v hv
  obtain ⟨hbrought, hdelete⟩ := ha
  by_cases hw : a = .deleteVlan v
  · subst hw
    rcases carries_apply hv with hv | hv
    · exact absurd hv (hdelete v rfl)
    · cases hv
  · refine vlans_apply ?_ hw
    rcases carries_apply hv with hv | hv
    · exact h v hv
    · exact hbrought v hv

/-! ## Actions one after the other -/

theorem replay_append (s : SwitchState) (as bs : List Action) :
    s.replay (as ++ bs) = (s.replay as).replay bs := List.foldl_append

theorem admitted_append : s.Admitted (as ++ bs) ↔ s.Admitted as ∧ (s.replay as).Admitted bs := by
  induction as generalizing s with
  | nil => simp [Admitted, replay]
  | cons a as ih =>
    rw [List.cons_append, Admitted, Admitted, ih, and_assoc]
    rfl

theorem carriedExist_replay (h : s.CarriedExist) (has : s.Admitted as) : (s.replay as).CarriedExist := by
  induction as generalizing s with
  | nil => exact h
  | cons a as ih => exact ih (carriedExist_apply h has.1) has.2

/-- What ports and LAGs carry is there at each point of admitted actions. -/
theorem carriedExist_of_prefix (h : s.CarriedExist) (has : s.Admitted as) (hbs : bs <+: as) :
    (s.replay bs).CarriedExist := by
  obtain ⟨cs, rfl⟩ := hbs
  exact carriedExist_replay h (admitted_append.1 has).1

theorem vlans_replay (h : s.vlans v = true) (has : .deleteVlan v ∉ as) : (s.replay as).vlans v = true := by
  induction as generalizing s with
  | nil => exact h
  | cons a as ih =>
    obtain ⟨ha, has⟩ := List.ne_and_not_mem_of_not_mem_cons has
    exact ih (vlans_apply h ha.symm) has

/-- A VLAN is there after actions that create it and do not delete it. -/
theorem vlans_replay_of_created (h : .createVlan v ∈ as) (has : .deleteVlan v ∉ as) :
    (s.replay as).vlans v = true := by
  obtain ⟨before, after, rfl⟩ := List.append_of_mem h
  have hcreated : ((s.replay before).apply (.createVlan v)).vlans v = true := Function.update_self ..
  rw [replay_append]
  refine vlans_replay (s := (s.replay before).apply (.createVlan v)) hcreated fun hm => has ?_
  exact List.mem_append_right _ (List.mem_cons_of_mem _ hm)

/-- Actions are admitted if all VLANs that they bring are there and they delete none. -/
theorem admitted_of_created (hbrought : ∀ a ∈ as, ∀ v ∈ brought a, s.vlans v = true)
    (hdelete : ∀ v, .deleteVlan v ∉ as) : s.Admitted as := by
  induction as generalizing s with
  | nil => trivial
  | cons a as ih =>
    have hne : ∀ v, a ≠ .deleteVlan v := fun v ha => hdelete v (ha ▸ List.mem_cons_self)
    refine ⟨⟨hbrought a List.mem_cons_self, fun v ha => absurd ha (hne v)⟩, ih ?_ ?_⟩
    · intro b hb v hv
      exact vlans_apply (hbrought b (List.mem_cons_of_mem _ hb) v hv) (hne v)
    · exact fun v hv => hdelete v (List.mem_cons_of_mem _ hv)

/-- Actions that bring no VLANs are admitted if nothing is carried. -/
theorem admitted_of_idle (hbrought : ∀ a ∈ as, brought a = []) (h : ∀ v, ¬ s.Carries v) : s.Admitted as := by
  induction as generalizing s with
  | nil => trivial
  | cons a as ih =>
    have ha : brought a = [] := hbrought a List.mem_cons_self
    refine ⟨⟨by simp [ha], fun v _ => h v⟩, ih (fun b hb => hbrought b (List.mem_cons_of_mem _ hb)) ?_⟩
    intro v hv
    rcases carries_apply hv with hv | hv
    · exact h v hv
    · simp [ha] at hv

end SwitchState

end SwitchFabric
