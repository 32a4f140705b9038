import SwitchFabric.Proofs.Recording.Planned
import SwitchFabric.Proofs.Topology.Members

/-!
# Configuring fresh switches

Recording switches for all data switches of a definition, none of which has MLAG or ever fails (`Fresh`). If the
definition passes its checks and has a topology, then configuring them ends well, and the calls that they record are
known (`Fresh.configure`).
-/

namespace SwitchFabric.Recording

/-- Plain recording switches for all data switches. -/
structure Fresh (c : Cluster) (switches : SortedMap String RecordingSwitch) : Prop where
  cover : ∀ label ∈ c.labels, switches.contains label = true
  plain : ∀ s ∈ switches.values, s = .plain

variable {c : Cluster} {switches : SortedMap String RecordingSwitch}

theorem Fresh.sound (h : Fresh c switches) : (start switches).Sound :=
  sound_of_failOn fun s hs => by rw [h.plain s hs]; rfl

theorem Fresh.mlag (h : Fresh c switches) : (start switches).mlag = fun _ => false := by
  funext label
  rw [Recording.mlag, switch]
  cases hs : (start switches).switches.get? label with
  | none => rfl
  | some s =>
    have hm : s ∈ switches.values := List.mem_map.2 ⟨(label, s), SortedMap.mem_entries_iff.2 hs, rfl⟩
    rw [h.plain s hm]
    rfl

/-- All switches of the topology have drivers. -/
theorem Fresh.covered (h : Fresh c switches) (hc : c.Checked) {t : Topology} (ht : c.topology = .ok t) :
    Pass.missingDriver fleet t.switches (start switches) = none :=
  covered_of_contains fun label hl => h.cover label (hc.mem_labels_of_topology ht label hl)

/-- Configuring ends well, and the switches have drivers as before. -/
theorem Fresh.configure (h : Fresh c switches) (hc : c.Checked) {t : Topology} (ht : c.topology = .ok t)
    {π : Type} (o : Operator π) (operator : π) :
    let run := Pass.run fleet o t t.configure ⟨start switches, operator⟩
    let calls := (Pass.plan t.configure).calls fun _ => false
    run.1 = .ok () ∧ run.2.fleet.log = calls ∧ run.2.fleet.mlag = mlagReplay (fun _ => false) calls ∧
      run.2.fleet.Sound ∧ Pass.missingDriver fleet t.switches run.2.fleet = none := by
  intro run calls
  obtain ⟨hok, hlog, hmlag, hrest⟩ := configure_of_sound o t ⟨start switches, operator⟩ h.sound (h.covered hc ht)
  rw [h.mlag] at hlog hmlag
  exact ⟨hok, hlog.trans (List.nil_append _), hmlag, hrest⟩

end SwitchFabric.Recording
