import SwitchFabric.Proofs.Pass.Plan
import SwitchFabric.Proofs.Topology.Members
import SwitchFabric.Registry

/-!
# Connections to the switches of a definition

A connection makes a driver for each switch, or stops at the first for which none can be made (`connectAll_cases`). It
has drivers for the switches that it was made to (`contains_connectAll`), and where their labels differ each has its own
(`get?_connectAll`). So a pass over the views of a definition misses no driver of a connection to all its switches
(`Checked.missingDriver_eq_none`).
-/

namespace SwitchFabric

namespace Registry

variable {δ : Type} {r : Registry δ}

/-- Drivers are made for all switches, or up to the first for which none can be made. -/
theorem connectAll_cases (r : Registry δ) (as : List AccessInfo) (drivers : SortedMap String δ) :
    (∃ drivers', r.connectAll as drivers = .ok drivers') ∨
      ∃ before a after e, as = before ++ a :: after ∧ (∀ b ∈ before, ∃ d, r.create b = .ok d) ∧
        r.create a = .error e ∧ r.connectAll as drivers = .error (.factory a.label e) := by
  induction as generalizing drivers with
  | nil => exact .inl ⟨drivers, rfl⟩
  | cons a as ih =>
    rw [connectAll]
    cases ha : r.create a with
    | error e => exact .inr ⟨[], a, as, e, rfl, fun _ hb => absurd hb List.not_mem_nil, ha, rfl⟩
    | ok d =>
      rcases ih (drivers.insert a.label d) with h | ⟨before, b, after, e, rfl, hbefore, hb, h⟩
      · exact .inl h
      · exact .inr ⟨a :: before, b, after, e, rfl, List.forall_mem_cons.2 ⟨⟨d, ha⟩, hbefore⟩, hb, h⟩

/-- One switch more: its driver is made, and then the others are. -/
theorem connectAll_cons {a : AccessInfo} {as : List AccessInfo} {drivers drivers' : SortedMap String δ}
    (h : r.connectAll (a :: as) drivers = .ok drivers') :
    ∃ d, r.create a = .ok d ∧ r.connectAll as (drivers.insert a.label d) = .ok drivers' := by
  rw [connectAll] at h
  cases ha : r.create a with
  | error e =>
    rw [ha] at h
    cases h
  | ok d =>
    rw [ha] at h
    exact ⟨d, rfl, h⟩

/-- A connection has drivers for the switches that it was made to. -/
theorem contains_connectAll {as : List AccessInfo} {drivers drivers' : SortedMap String δ}
    (h : r.connectAll as drivers = .ok drivers') (label : String) :
    drivers'.contains label = true ↔ label ∈ as.map (·.label) ∨ drivers.contains label = true := by
  induction as generalizing drivers with
  | nil =>
    cases h
    simp
  | cons a as ih =>
    obtain ⟨d, -, h⟩ := connectAll_cons h
    rw [ih h, SortedMap.contains, SortedMap.get?_insert]
    by_cases heq : label = a.label <;> simp [heq, SortedMap.contains]

/-- A connection to switches of different labels has the driver of each under its label. -/
theorem get?_connectAll {as : List AccessInfo} {drivers drivers' : SortedMap String δ}
    (h : r.connectAll as drivers = .ok drivers') (hnodup : (as.map (·.label)).Nodup) :
    (∀ a ∈ as, ∃ d, r.create a = .ok d ∧ drivers'.get? a.label = some d) ∧
      ∀ label ∉ as.map (·.label), drivers'.get? label = drivers.get? label := by
  induction as generalizing drivers with
  | nil =>
    cases h
    exact ⟨nofun, fun _ _ => rfl⟩
  | cons a as ih =>
    obtain ⟨hnot, hnodup⟩ := List.nodup_cons.1 hnodup
    obtain ⟨d, ha, h⟩ := connectAll_cons h
    obtain ⟨hget, hother⟩ := ih h hnodup
    refine ⟨List.forall_mem_cons.2 ⟨⟨d, ha, ?_⟩, hget⟩, fun label hl => ?_⟩
    · rw [hother _ hnot, SortedMap.get?_insert, if_pos rfl]
    · obtain ⟨hne, hl⟩ := List.ne_and_not_mem_of_not_mem_cons hl
      rw [hother _ hl, SortedMap.get?_insert, if_neg hne]

/-- Switches for all of which drivers can be made are connected to. -/
theorem exists_connectAll {as : List AccessInfo} (h : ∀ a ∈ as, ∃ d, r.create a = .ok d)
    (drivers : SortedMap String δ) : ∃ drivers', r.connectAll as drivers = .ok drivers' := by
  rcases r.connectAll_cases as drivers with hconnect | ⟨before, a, after, e, rfl, -, ha, -⟩
  · exact hconnect
  · obtain ⟨d, hd⟩ := h a (List.mem_append_right before List.mem_cons_self)
    rw [ha] at hd
    cases hd

end Registry

namespace Cluster

variable {c : Cluster}

theorem map_label_accessInfo (c : Cluster) : c.accessInfo.map (·.label) = c.labels := by
  rw [accessInfo, labels, List.map_map]
  rfl

/-- The switches of a checked definition have different labels. -/
theorem Checked.nodup_accessInfo (h : c.Checked) : (c.accessInfo.map (·.label)).Nodup := by
  rw [map_label_accessInfo]
  exact h.nodup

/-- A connection to the switches of a definition has drivers for all that its views mention. -/
theorem Checked.missingDriver_eq_none (h : c.Checked) {t : Topology} (ht : c.topology = .ok t)
    {δ : Type} {r : Registry δ} {drivers : SortedMap String δ} (hconnect : r.connect c.accessInfo = .ok drivers)
    {σ : Type} {f : Fleet σ} (hf : ∀ label s, f.hasDriver label s = drivers.contains label) (s : σ) :
    Pass.missingDriver f t.switches s = none := by
  rw [Pass.missingDriver_eq_none_iff]
  intro label hl
  have hmem := h.mem_labels_of_topology ht label hl
  rw [← map_label_accessInfo] at hmem
  rw [hf, Registry.contains_connectAll hconnect]
  exact .inl hmem

end Cluster

end SwitchFabric
