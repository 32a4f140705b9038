import SwitchFabric.Cluster.Builder
import SwitchFabric.Proofs.Pass.Share
import SwitchFabric.Proofs.Recording.Planned

/-!
# A switch is told about itself only

The calls on one switch (`callsOn`) are those of the steps about the switch, whatever the other switches are, since a step
asks no switch but its own (`Pass.callsOn_calls`). The steps about a switch follow from its share of the topology. So
configuring tells a switch the same in any two topologies that give it the same share (`told_of_share`).
-/

namespace SwitchFabric

open Recording (mlagStep mlagReplay)

/-- The calls on a switch. -/
def callsOn (label : String) (cs : List RecordedCall) : List RecordedCall := cs.filter (·.switch = label)

variable {label : String} {m m' : String → Bool}

theorem callsOn_cons (c : RecordedCall) (cs : List RecordedCall) :
    callsOn label (c :: cs) = if c.switch = label then c :: callsOn label cs else callsOn label cs := by
  rw [callsOn, List.filter_cons]
  simp only [decide_eq_true_eq]
  rfl

theorem callsOn_append (cs ds : List RecordedCall) :
    callsOn label (cs ++ ds) = callsOn label cs ++ callsOn label ds := List.filter_append ..

namespace Recording

theorem mlagStep_congr (h : m label = m' label) (c : RecordedCall) :
    mlagStep m c label = mlagStep m' c label := by
  obtain ⟨l, _ | a⟩ := c
  · exact h
  · show (if label = l then mlagAfter (m label) a else m label) = if label = l then mlagAfter (m' label) a else m' label
    rw [h]

theorem mlagStep_of_ne {c : RecordedCall} (h : c.switch ≠ label) : mlagStep m c label = m label := by
  obtain ⟨l, _ | a⟩ := c
  · rfl
  · exact if_neg (Ne.symm h)

/-- The MLAG of a switch follows the calls on it. -/
theorem mlagReplay_callsOn (h : m label = m' label) (cs : List RecordedCall) :
    mlagReplay m cs label = mlagReplay m' (callsOn label cs) label := by
  induction cs generalizing m m' with
  | nil => exact h
  | cons c cs ih =>
    rw [callsOn_cons]
    split
    · exact ih (mlagStep_congr h c)
    · next hc => exact ih ((mlagStep_of_ne hc).trans h)

end Recording

namespace Step

variable {t : Step}

theorem switch_of_mem_calls {c : RecordedCall} (h : c ∈ t.calls m) : c.switch = t.switch := by
  have hacts {l : String} {as : List Action} (h : c ∈ as.map (⟨l, .act ·⟩)) : c.switch = l := by
    obtain ⟨a, -, rfl⟩ := List.mem_map.1 h
    rfl
  cases t with
  | act switch a => rw [List.mem_singleton.1 h]; rfl
  | whenMlag switch configured as | withConsent switch question as =>
    rw [calls] at h
    rcases List.mem_cons.1 h with rfl | h
    · rfl
    · split at h
      · exact hacts h
      · cases h

/-- A step asks no switch but its own. -/
theorem calls_congr (h : m t.switch = m' t.switch) : t.calls m = t.calls m' := by
  cases t with
  | act switch a => rfl
  | whenMlag switch configured as | withConsent switch question as =>
    rw [calls, calls, show m switch = m' switch from h]

end Step

/-- The calls on a switch are those of the steps about it, and depend on no MLAG but its own. -/
theorem Pass.callsOn_calls (h : m label = m' label) (ts : List Step) :
    callsOn label ((plan ts).calls m) = (plan (stepsOn label ts)).calls m' := by
  induction ts generalizing m m' with
  | nil => rfl
  | cons t ts ih =>
    have hreplay := Recording.mlagReplay_callsOn h (t.calls m)
    rw [calls_cons, callsOn_append, stepsOn_cons]
    split
    · next ht =>
      have hall : callsOn label (t.calls m) = t.calls m :=
        List.filter_eq_self.2 fun c hc => decide_eq_true ((Step.switch_of_mem_calls hc).trans ht)
      have hcalls : t.calls m = t.calls m' := Step.calls_congr (by rw [ht]; exact h)
      rw [hall] at hreplay
      rw [hall, calls_cons, ← hcalls, ih hreplay]
    · next ht =>
      have hnone : callsOn label (t.calls m) = [] :=
        List.filter_eq_nil_iff.2 fun c hc => by
          rw [Step.switch_of_mem_calls hc]
          simpa using ht
      rw [hnone] at hreplay
      rw [hnone, ih hreplay]
      rfl

namespace Recording

/-- A switch is told about itself only. Let two topologies give a switch the same share, and configure each on recording
switches for all that it mentions, of which none fails and the one in question has MLAG in both cases or in neither. Then
both runs end well, and the calls on the switch are the same ones in the same order, whatever else the topologies say and
the other switches are. -/
theorem told_of_share {t t' : Topology} {switches switches' : SortedMap String RecordingSwitch} {label : String}
    (hcover : ∀ l ∈ t.switches, switches.contains l = true) (hcover' : ∀ l ∈ t'.switches, switches'.contains l = true)
    (hfail : ∀ s ∈ switches.values, s.failOn = none) (hfail' : ∀ s ∈ switches'.values, s.failOn = none)
    (hmlag : (start switches).mlag label = (start switches').mlag label) (hshare : t.share label = t'.share label)
    {π π' : Type} (o : Operator π) (o' : Operator π') (operator : π) (operator' : π') :
    let run := Pass.run fleet o t t.configure ⟨start switches, operator⟩
    let run' := Pass.run fleet o' t' t'.configure ⟨start switches', operator'⟩
    run.1 = .ok () ∧ run'.1 = .ok () ∧ callsOn label run.2.fleet.log = callsOn label run'.2.fleet.log := by
  intro run run'
  obtain ⟨hok, hlog, -⟩ := configure_of_sound o t ⟨start switches, operator⟩ (sound_of_failOn hfail)
    (covered_of_contains hcover)
  obtain ⟨hok', hlog', -⟩ := configure_of_sound o' t' ⟨start switches', operator'⟩ (sound_of_failOn hfail')
    (covered_of_contains hcover')
  refine ⟨hok, hok', ?_⟩
  show callsOn label (Pass.run fleet o t t.configure ⟨start switches, operator⟩).2.fleet.log =
    callsOn label (Pass.run fleet o' t' t'.configure ⟨start switches', operator'⟩).2.fleet.log
  calc callsOn label (Pass.run fleet o t t.configure ⟨start switches, operator⟩).2.fleet.log
      = callsOn label ((Pass.plan t.configure).calls (start switches).mlag) := by rw [hlog]; rfl
    _ = (Pass.plan (stepsOn label t.configure)).calls (start switches').mlag := Pass.callsOn_calls hmlag _
    _ = (Pass.plan (stepsOn label t'.configure)).calls (start switches').mlag := by
        rw [Topology.stepsOn_configure_congr hshare]
    _ = callsOn label ((Pass.plan t'.configure).calls (start switches').mlag) := (Pass.callsOn_calls rfl _).symm
    _ = callsOn label (Pass.run fleet o' t' t'.configure ⟨start switches', operator'⟩).2.fleet.log := by
        rw [hlog']; rfl

/-- The pair of the scenario, beside a switch that nothing joins to it. -/
def pairAndThird : Cluster :=
  Scenario.mlagPair.cluster.withSwitch "data_3"
    |>.withInterface (.physical "eth0")
    |>.withInterface (.ofVlan "eth0" 100)
    |>.withTemplate "storage" [⟨"data_3", "eth0.100", [5]⟩]

/-- The peer of the pair is told the same with a third switch in the fabric and MLAG on the master already. -/
theorem told_of_share_third :
    let t := Scenario.mlagPair.topology
    let t' := pairAndThird.topology.toOption.getD .empty
    let switches : SortedMap String RecordingSwitch := .ofList [("data_1", .plain), ("data_2", .plain)]
    let switches' : SortedMap String RecordingSwitch :=
      .ofList [("data_1", ⟨true, none⟩), ("data_2", .plain), ("data_3", .plain)]
    let log := (Pass.run fleet Script.operator t t.configure ⟨start switches, ⟨[], []⟩⟩).2.fleet.log
    let log' := (Pass.run fleet Script.operator t' t'.configure ⟨start switches', ⟨[], []⟩⟩).2.fleet.log
    pairAndThird.topology = .ok t' ∧ log ≠ log' ∧ (callsOn "data_2" log).length = 21 ∧
      callsOn "data_2" log = callsOn "data_2" log' := by
  intro t t' switches switches' log log'
  have hcover : ∀ l ∈ t.switches, switches.contains l = true := by decide +kernel
  have hcover' : ∀ l ∈ t'.switches, switches'.contains l = true := by decide +kernel
  have hmlag : (start switches).mlag "data_2" = (start switches').mlag "data_2" := by decide
  have hshare : t.share "data_2" = t'.share "data_2" := by decide +kernel
  obtain ⟨-, -, h⟩ := told_of_share hcover hcover' (by decide) (by decide) hmlag hshare Script.operator Script.operator
    ⟨[], []⟩ ⟨[], []⟩
  exact ⟨rfl, by decide +kernel, by decide +kernel, h⟩

end Recording

end SwitchFabric
