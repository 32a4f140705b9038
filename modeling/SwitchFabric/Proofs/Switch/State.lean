import Mathlib.Logic.Function.Basic
import SwitchFabric.Recording

/-!
# What the calls of a driver make of a switch

A switch as its calls leave it: which VLANs there are and which ports carry them, the modes and the MTUs of
ports, the port channels of both kinds, and MLAG. The state is looked at cell by cell. A cell that is blank
stays so unless an action takes it (`blank_apply`), and an action that releases it makes it blank
(`blank_apply_of_released`). So actions are undone by others that release all cells that they take and take none
(`replay_eq_empty`).
-/

namespace SwitchFabric

/-- The MTU that a port has instead of the switch's default. -/
def Mtu.override? (m : Mtu) : Option Mtu := if m.isReset then none else some m

/-- A port channel with what has been put into it. -/
structure PortChannel where
  ports : List Nat
  vlans : List VlanId
  mtu : Option Mtu

/-- What a switch has been told. -/
structure SwitchState where
  /-- The VLANs that have been created. -/
  vlans : VlanId → Bool
  /-- The VLANs that each port carries. -/
  portVlans : Nat → VlanId → Bool
  modes : Nat → SwitchportMode
  mtus : Nat → Option Mtu
  lags : Nat → Option PortChannel
  mlagInterfaces : Nat → Option PortChannel
  mlag : Option MlagParams
  mlagEnabled : Bool

namespace PortChannel

/-- A port channel as it is made. -/
def bare : PortChannel := ⟨[], [], none⟩

/-- Ports are put behind those that are there. -/
def bind (ports : List Nat) (c : PortChannel) : PortChannel := { c with ports := c.ports ++ ports }

/-- Take a port out, wherever it stands. -/
def unbind (port : Nat) (c : PortChannel) : PortChannel := { c with ports := c.ports.filter (· != port) }

/-- VLANs are put behind those that are there. -/
def allow (vlans : List VlanId) (c : PortChannel) : PortChannel := { c with vlans := c.vlans ++ vlans }

/-- A reset leaves no MTU of its own. -/
def setMtu (mtu : Mtu) (c : PortChannel) : PortChannel := { c with mtu := mtu.override? }

/-- Port channels with one of them changed. It is made if there is none. -/
def touch (channel : Nat) (f : PortChannel → PortChannel) (channels : Nat → Option PortChannel) :
    Nat → Option PortChannel :=
  Function.update channels channel (some (f ((channels channel).getD bare)))

end PortChannel

namespace SwitchState

open PortChannel (bind unbind allow setMtu touch)

/-- A switch that has been told nothing: all ports are in access mode. -/
def empty : SwitchState where
  vlans _ := false
  portVlans _ _ := false
  modes _ := .access
  mtus _ := none
  lags _ := none
  mlagInterfaces _ := none
  mlag := none
  mlagEnabled := false

/-- The switch after an action. -/
def apply (s : SwitchState) : Action → SwitchState
  | .createVlan v => { s with vlans := Function.update s.vlans v true }
  | .deleteVlan v => { s with vlans := Function.update s.vlans v false }
  | .setSwitchportMode port mode => { s with modes := Function.update s.modes port mode }
  | .addVlansToPort port vlans =>
    { s with portVlans := Function.update s.portVlans port fun v => vlans.contains v || s.portVlans port v }
  | .removeVlansFromPort port vlans =>
    { s with portVlans := Function.update s.portVlans port fun v => !vlans.contains v && s.portVlans port v }
  | .setMtuForPort port mtu => { s with mtus := Function.update s.mtus port mtu.override? }
  | .configureMlag params => { s with mlag := some params }
  | .enableMlag => { s with mlagEnabled := true }
  | .deconfigureMlag => { s with mlag := none, mlagEnabled := false }
  | .createLagInterface channel => { s with lags := touch channel id s.lags }
  | .removeLagInterface channel => { s with lags := Function.update s.lags channel none }
  | .removeChannelGroup port => { s with lags := fun channel => (s.lags channel).map (unbind port) }
  | .bindPortsToLagInterface ports channel => { s with lags := touch channel (bind ports) s.lags }
  | .addVlansToLagPortChannel channel vlans => { s with lags := touch channel (allow vlans) s.lags }
  | .setMtuForLagPortChannel channel mtu => { s with lags := touch channel (setMtu mtu) s.lags }
  | .createMlagInterface channel => { s with mlagInterfaces := touch channel id s.mlagInterfaces }
  | .removeMlagInterface channel =>
    { s with mlagInterfaces := Function.update s.mlagInterfaces channel none }
  | .bindPortToMlagInterface port channel =>
    { s with mlagInterfaces := touch channel (bind [port]) s.mlagInterfaces }
  | .addVlansToMlagPortChannel channel vlans =>
    { s with mlagInterfaces := touch channel (allow vlans) s.mlagInterfaces }
  | .setMtuForMlagPortChannel channel mtu =>
    { s with mlagInterfaces := touch channel (setMtu mtu) s.mlagInterfaces }

/-- The switch after actions. -/
def replay (s : SwitchState) (as : List Action) : SwitchState := as.foldl apply s

/-! ## Cells -/

/-- A part of a switch's state. -/
inductive Cell where
  | vlan (v : VlanId)
  | portVlan (port : Nat) (v : VlanId)
  | mode (port : Nat)
  | mtu (port : Nat)
  | lag (channel : Nat)
  | mlagInterface (channel : Nat)
  | mlag
  deriving DecidableEq

/-- The cell is as in the empty state. -/
def Blank (s : SwitchState) : Cell → Prop
  | .vlan v => s.vlans v = false
  | .portVlan port v => s.portVlans port v = false
  | .mode port => s.modes port = .access
  | .mtu port => s.mtus port = none
  | .lag channel => s.lags channel = none
  | .mlagInterface channel => s.mlagInterfaces channel = none
  | .mlag => s.mlag = none ∧ s.mlagEnabled = false

/-- The cells that an action puts something into. -/
def taken : Action → List Cell
  | .createVlan v => [.vlan v]
  | .addVlansToPort port vlans => vlans.map (.portVlan port)
  | .setSwitchportMode port mode => if mode = .access then [] else [.mode port]
  | .setMtuForPort port mtu => if mtu.isReset then [] else [.mtu port]
  | .configureMlag _ | .enableMlag => [.mlag]
  | .createLagInterface channel | .bindPortsToLagInterface _ channel
  | .addVlansToLagPortChannel channel _ | .setMtuForLagPortChannel channel _ => [.lag channel]
  | .createMlagInterface channel | .bindPortToMlagInterface _ channel
  | .addVlansToMlagPortChannel channel _ | .setMtuForMlagPortChannel channel _ => [.mlagInterface channel]
  | .deleteVlan _ | .removeVlansFromPort _ _ | .deconfigureMlag | .removeLagInterface _
  | .removeChannelGroup _ | .removeMlagInterface _ => []

/-- The cells that an action makes blank. -/
def released : Action → List Cell
  | .deleteVlan v => [.vlan v]
  | .removeVlansFromPort port vlans => vlans.map (.portVlan port)
  | .setSwitchportMode port mode => if mode = .access then [.mode port] else []
  | .setMtuForPort port mtu => if mtu.isReset then [.mtu port] else []
  | .deconfigureMlag => [.mlag]
  | .removeLagInterface channel => [.lag channel]
  | .removeMlagInterface channel => [.mlagInterface channel]
  | _ => []

theorem eq_empty_iff {s : SwitchState} : s = empty ↔ ∀ c, s.Blank c := by
  constructor
  · rintro rfl c
    cases c <;> first | rfl | exact ⟨rfl, rfl⟩
  · intro h
    obtain ⟨vlans, portVlans, modes, mtus, lags, mlagInterfaces, mlag, mlagEnabled⟩ := s
    obtain ⟨rfl, rfl⟩ := h .mlag
    have hvlans : vlans = fun _ => false := funext fun v => h (.vlan v)
    have hportVlans : portVlans = fun _ _ => false := funext fun port => funext fun v => h (.portVlan port v)
    have hmodes : modes = fun _ => .access := funext fun port => h (.mode port)
    have hmtus : mtus = fun _ => none := funext fun port => h (.mtu port)
    have hlags : lags = fun _ => none := funext fun channel => h (.lag channel)
    have hmlags : mlagInterfaces = fun _ => none := funext fun channel => h (.mlagInterface channel)
    rw [hvlans, hportVlans, hmodes, hmtus, hlags, hmlags, empty]

/-- A blank cell stays blank if the action does not take it. -/
theorem blank_apply {s : SwitchState} {c : Cell} {a : Action} (h : s.Blank c) (ha : c ∉ taken a) :
    (s.apply a).Blank c := by
  cases a <;> cases c <;>
    simp only [Blank, apply, touch, Function.update_apply] at h ⊢ <;> try exact h
  case createVlan.vlan v w =>
    rw [if_neg fun e => ha (by simp [taken, e])]
    exact h
  case deleteVlan.vlan v w =>
    split
    · rfl
    · exact h
  case setSwitchportMode.mode port mode port' =>
    split
    · next e =>
      by_cases hm : mode = .access
      · exact hm
      · exact absurd (by simp [taken, e, hm]) ha
    · exact h
  case addVlansToPort.portVlan port vlans port' v =>
    split
    · next e =>
      have hv : v ∉ vlans := fun hv => ha (by simp [taken, e, hv])
      show (vlans.contains v || s.portVlans port v) = false
      rw [← e, h, Bool.or_false]
      simpa using hv
    · exact h
  case removeVlansFromPort.portVlan port vlans port' v =>
    split
    · next e =>
      show (!vlans.contains v && s.portVlans port v) = false
      rw [← e, h, Bool.and_false]
    · exact h
  case setMtuForPort.mtu port mtu port' =>
    split
    · next e =>
      cases hm : mtu.isReset with
      | true => rw [Mtu.override?, hm, if_pos rfl]
      | false => exact absurd (by simp [taken, e, hm]) ha
    · exact h
  case removeChannelGroup.lag port channel => rw [h, Option.map_none]
  case removeLagInterface.lag channel channel' =>
    split
    · rfl
    · exact h
  case removeMlagInterface.mlagInterface channel channel' =>
    split
    · rfl
    · exact h
  case configureMlag.mlag | enableMlag.mlag => exact absurd (by simp [taken]) ha
  case deconfigureMlag.mlag => exact ⟨trivial, trivial⟩
  -- the actions that make a port channel or change it
  all_goals
    rw [if_neg fun e => ha (by simp [taken, e])]
    exact h

/-- A cell is blank after an action that releases it. -/
theorem blank_apply_of_released (s : SwitchState) {c : Cell} {a : Action} (h : c ∈ released a) :
    (s.apply a).Blank c := by
  cases a with
  | deleteVlan v =>
    rw [List.mem_singleton.1 h]
    exact Function.update_self ..
  | removeVlansFromPort port vlans =>
    obtain ⟨v, hv, rfl⟩ := List.mem_map.1 h
    show Function.update s.portVlans port _ port v = false
    rw [Function.update_self, List.contains_iff_mem.2 hv, Bool.not_true, Bool.false_and]
  | setSwitchportMode port mode =>
    rw [released] at h
    split at h
    · next hm =>
      rw [List.mem_singleton.1 h]
      show Function.update s.modes port mode port = .access
      rw [Function.update_self, hm]
    · cases h
  | setMtuForPort port mtu =>
    rw [released] at h
    split at h
    · next hm =>
      rw [List.mem_singleton.1 h]
      show Function.update s.mtus port mtu.override? port = none
      rw [Function.update_self, Mtu.override?, if_pos hm]
    · cases h
  | deconfigureMlag =>
    rw [List.mem_singleton.1 h]
    exact ⟨rfl, rfl⟩
  | removeLagInterface channel =>
    rw [List.mem_singleton.1 h]
    exact Function.update_self ..
  | removeMlagInterface channel =>
    rw [List.mem_singleton.1 h]
    exact Function.update_self ..
  | _ => cases h

/-! ## Actions that undo others -/

theorem blank_replay {s : SwitchState} {c : Cell} {as : List Action} (h : s.Blank c)
    (has : ∀ a ∈ as, c ∉ taken a) : (s.replay as).Blank c := by
  induction as generalizing s with
  | nil => exact h
  | cons a as ih =>
    obtain ⟨ha, has⟩ := List.forall_mem_cons.1 has
    exact ih (blank_apply h ha) has

/-- A cell is blank after actions that release it at some point and take it at none. -/
theorem blank_replay_of_released (s : SwitchState) {c : Cell} {as : List Action}
    (has : ∀ a ∈ as, c ∉ taken a) (h : ∃ a ∈ as, c ∈ released a) : (s.replay as).Blank c := by
  obtain ⟨a, ha, hc⟩ := h
  obtain ⟨before, after, rfl⟩ := List.append_of_mem ha
  show (List.foldl apply s (before ++ a :: after)).Blank c
  rw [List.foldl_append, List.foldl_cons]
  refine blank_replay (blank_apply_of_released _ hc) fun b hb => has b ?_
  exact List.mem_append_right _ (List.mem_cons_of_mem _ hb)

/-- Actions on an empty switch are undone by actions that take nothing, and that release all cells that the
former take. -/
theorem replay_eq_empty {as bs : List Action} (hbs : ∀ b ∈ bs, taken b = [])
    (h : ∀ a ∈ as, ∀ c ∈ taken a, ∃ b ∈ bs, c ∈ released b) : empty.replay (as ++ bs) = empty := by
  show List.foldl apply empty (as ++ bs) = empty
  rw [List.foldl_append, eq_empty_iff]
  intro c
  have hfree : ∀ b ∈ bs, c ∉ taken b := fun b hb hc => by
    rw [hbs b hb] at hc
    cases hc
  by_cases hc : ∃ a ∈ as, c ∈ taken a
  · obtain ⟨a, ha, hc⟩ := hc
    exact blank_replay_of_released _ hfree (h a ha c hc)
  · refine blank_replay (blank_replay (eq_empty_iff.1 rfl c) fun a ha hc' => ?_) hfree
    exact hc ⟨a, ha, hc'⟩

end SwitchState

end SwitchFabric
