import Mathlib.Data.List.Basic
import SwitchFabric.Cluster.Builder
import SwitchFabric.Proofs.Recording.Planned

/-!
# Configuring again

Which calls a pass makes depends on the MLAG of the switches in one place only: where MLAG is configured. Besides this,
the calls of configuring are the same whatever the MLAG of the switches is (`Topology.indifferent_configure`), since
each pair has it on both members by the time it is enabled. After one pass all members have MLAG (`Settled`), and then
a pass configures it nowhere and changes it nowhere (`Settled.configure`).

So configuring is idempotent, any number of times (`reconfiguring_idempotent`).
-/

namespace SwitchFabric

open Recording (mlagStep mlagReplay)

/-- The call configures MLAG. -/
def RecordedCall.configuresMlag (c : RecordedCall) : Bool :=
  match c.call with
  | .act (.configureMlag _) => true
  | .act _ | .isMlagConfigured => false

/-- The calls that do not configure MLAG. -/
def withoutMlagSetup (cs : List RecordedCall) : List RecordedCall := cs.filter fun c => !c.configuresMlag

theorem withoutMlagSetup_append (cs ds : List RecordedCall) :
    withoutMlagSetup (cs ++ ds) = withoutMlagSetup cs ++ withoutMlagSetup ds := List.filter_append ..

/-! ## Steps that do not depend on MLAG -/

namespace Pass

/-- Besides configuring MLAG, the steps make the same calls whatever the MLAG of the switches is. -/
def Indifferent (ts : List Step) : Prop :=
  ∀ m m', withoutMlagSetup ((plan ts).calls m) = withoutMlagSetup ((plan ts).calls m')

variable {ts us : List Step}

theorem Indifferent.append (h : Indifferent ts) (h' : Indifferent us) : Indifferent (ts ++ us) := by
  intro m m'
  rw [calls_append, calls_append, withoutMlagSetup_append, withoutMlagSetup_append, h m m', h' _ _]

theorem indifferent_flatMap {α : Type} {l : List α} {steps : α → List Step} (h : ∀ x ∈ l, Indifferent (steps x)) :
    Indifferent (l.flatMap steps) := by
  induction l with
  | nil => exact fun _ _ => rfl
  | cons x l ih =>
    obtain ⟨hx, hl⟩ := List.forall_mem_cons.1 h
    rw [List.flatMap_cons]
    exact hx.append (ih hl)

theorem indifferent_of_acts (h : ∀ u ∈ ts, ∃ switch a, u = .act switch a) : Indifferent ts := fun m m' => by
  rw [calls_of_acts h m m']

/-- Configuring MLAG where there is none: each switch is asked, and what depends on its answer does not count. -/
theorem indifferent_setups {α : Type} (l : List α) (switch : α → String) (params : α → MlagParams) :
    Indifferent (l.map fun x => .whenMlag (switch x) false [.configureMlag (params x)]) := by
  intro m m'
  induction l generalizing m m' with
  | nil => rfl
  | cons x l ih =>
    have hone (m : String → Bool) :
        withoutMlagSetup ((Step.whenMlag (switch x) false [.configureMlag (params x)]).calls m) =
          [⟨switch x, .isMlagConfigured⟩] := by
      rw [Step.calls]
      split <;> rfl
    rw [List.map_cons, calls_cons, calls_cons, withoutMlagSetup_append, withoutMlagSetup_append, hone, hone, ih]

end Pass

/-! ## Configuring -/

namespace Topology

variable {t : Topology} {m : String → Bool}

/-- Whichever members of a pair have MLAG, it is there on both when it is to be enabled. -/
theorem indifferent_configurePair (p : MlagPair) : Pass.Indifferent (configurePair p) := by
  intro m m'
  rw [calls_configurePair, calls_configurePair, withoutMlagSetup_append, withoutMlagSetup_append, setupSteps,
    Pass.indifferent_setups p.members (·.switch) _ m m']

theorem indifferent_configure (t : Topology) : Pass.Indifferent t.configure := by
  have hacts {ts : List Step} (h : ∀ u ∈ ts, u ∈ t.configureVlans ++ t.configureMtus ++ t.configureChannels) :
      Pass.Indifferent ts := Pass.indifferent_of_acts fun u hu => by
    obtain ⟨switch, a, rfl, -⟩ := exists_act_of_mem (h u hu)
    exact ⟨switch, a, rfl⟩
  have hvlans : Pass.Indifferent t.configureVlans := hacts fun u hu => by simp [hu]
  have hmtus : Pass.Indifferent t.configureMtus := hacts fun u hu => by simp [hu]
  have hchannels : Pass.Indifferent t.configureChannels := hacts fun u hu => by simp [hu]
  have hmlag : Pass.Indifferent t.configureMlag := Pass.indifferent_flatMap fun p _ => indifferent_configurePair p
  exact ((hvlans.append hmtus).append hmlag).append hchannels

/-! ## Switches that are configured -/

/-- The members of all pairs have MLAG. -/
def Settled (t : Topology) (m : String → Bool) : Prop := ∀ label ∈ t.memberLabels, m label = true

theorem settled_of_configure (t : Topology) (m : String → Bool) :
    t.Settled (mlagReplay m ((Pass.plan t.configure).calls m)) := fun _ hl => mlag_of_configure hl m

/-- Where the members have MLAG, it is configured on no switch. -/
theorem Settled.configuresMlag_eq_false (h : t.Settled m) {c : RecordedCall}
    (hc : c ∈ (Pass.plan t.configure).calls m) : c.configuresMlag = false := by
  obtain ⟨before, u, after, hconfigure, hu⟩ := Pass.mem_calls_iff.1 hc
  have hmem : u ∈ t.configure := by
    rw [hconfigure]
    simp
  cases configures_of_mem hmem with
  | @act switch a ha =>
    obtain rfl := List.mem_singleton.1 hu
    cases a <;> first | rfl | cases ha
  | @configureMlag p member hp hm =>
    have hquiet : ∀ u ∈ before, u.Quiet := fun u hu => by
      refine quiet_configure (t := t) ?_
      rw [hconfigure]
      exact List.mem_append_left _ hu
    have hlabel : member.switch ∈ t.memberLabels := List.mem_flatMap.2 ⟨p, hp, List.mem_map_of_mem hm⟩
    rw [Step.calls, if_neg (by rw [Pass.mlag_of_quiet hquiet (h _ hlabel)]; decide)] at hu
    obtain rfl := List.mem_singleton.1 hu
    rfl
  | enableMlag =>
    rw [Step.calls] at hu
    split at hu
    · rcases List.mem_pair.1 hu with rfl | rfl <;> rfl
    · obtain rfl := List.mem_singleton.1 hu
      rfl

/-- Where the members have MLAG, the calls are those of any other switches without the ones that configure it. -/
theorem Settled.calls_eq (h : t.Settled m) (m' : String → Bool) :
    (Pass.plan t.configure).calls m = withoutMlagSetup ((Pass.plan t.configure).calls m') := by
  rw [← indifferent_configure t m m', withoutMlagSetup, List.filter_eq_self.2]
  intro c hc
  rw [h.configuresMlag_eq_false hc]
  rfl

/-- A call of configuring that does not configure MLAG leaves it as it is on every switch. -/
theorem mlagStep_of_mem_calls {c : RecordedCall} (hc : c ∈ (Pass.plan t.configure).calls m)
    (hsetup : c.configuresMlag = false) (m' : String → Bool) : mlagStep m' c = m' := by
  obtain ⟨switch, _ | a⟩ := c
  · rfl
  · obtain ⟨u, hu, -, ha⟩ := Pass.exists_step_of_mem_calls hc
    have hquiet := (quiet_configure hu).2
    funext label
    show (if label = switch then Recording.mlagAfter (m' label) a else m' label) = m' label
    cases a with
    | configureMlag => cases hsetup
    | deconfigureMlag => exact absurd ha hquiet
    | _ => exact ite_self _

theorem Settled.mlagReplay_eq (h : t.Settled m) : mlagReplay m ((Pass.plan t.configure).calls m) = m := by
  have hkeeps : ∀ c ∈ (Pass.plan t.configure).calls m, ∀ m', mlagStep m' c = m' := fun c hc =>
    mlagStep_of_mem_calls hc (h.configuresMlag_eq_false hc)
  generalize (Pass.plan t.configure).calls m = cs at hkeeps
  induction cs with
  | nil => rfl
  | cons c cs ih =>
    obtain ⟨hc, hcs⟩ := List.forall_mem_cons.1 hkeeps
    rw [Recording.mlagReplay_cons, hc, ih hcs]

end Topology

/-! ## Passes one after the other -/

namespace Recording

variable {π : Type} (o : Operator π)

/-- The state after a number of passes that configure. -/
def configured (t : Topology) (s : PassState Recording π) : Nat → PassState Recording π
  | 0 => s
  | n + 1 => (Pass.run fleet o t t.configure (configured t s n)).2

/-- What a pass needs to find so as not to configure MLAG anywhere. -/
structure Ready (t : Topology) (r : Recording) : Prop where
  sound : r.Sound
  covered : Pass.missingDriver fleet t.switches r = none
  settled : t.Settled r.mlag

/-- A pass over switches that are configured leaves them as they are. -/
theorem Ready.configure {t : Topology} {s : PassState Recording π} (h : Ready t s.fleet) (m : String → Bool) :
    let run := Pass.run fleet o t t.configure s
    run.1 = .ok () ∧ run.2.fleet.log = s.fleet.log ++ withoutMlagSetup ((Pass.plan t.configure).calls m) ∧
      run.2.fleet.mlag = s.fleet.mlag ∧ Ready t run.2.fleet := by
  intro run
  obtain ⟨hok, hlog, hmlag, hsound, hcovered⟩ := configure_of_sound o t s h.sound h.covered
  rw [h.settled.mlagReplay_eq] at hmlag
  rw [h.settled.calls_eq m] at hlog
  exact ⟨hok, hlog, hmlag, hsound, hcovered, hmlag ▸ h.settled⟩

/-- Configuring is idempotent on recording switches that never fail, whichever of them have MLAG at first. All passes
end well. The calls of each pass but the first are those of the first without the ones that configure MLAG, so they are
the same in all these passes. None of them changes the MLAG of a switch, so it stays as the first pass leaves it. -/
theorem reconfiguring_idempotent {t : Topology} {switches : SortedMap String RecordingSwitch}
    (hcover : ∀ label ∈ t.switches, switches.contains label = true)
    (hsound : ∀ s ∈ switches.values, s.failOn = none) (operator : π) :
    let after := configured o t ⟨start switches, operator⟩
    let first := (after 1).fleet.log
    let again := withoutMlagSetup first
    let mlag := (after 1).fleet.mlag
    (∀ n, (Pass.run fleet o t t.configure (after n)).1 = .ok ()) ∧
      (∀ n, (after (n + 2)).fleet.log = (after (n + 1)).fleet.log ++ again) ∧
      (∀ n, (after (n + 1)).fleet.mlag = mlag) ∧ ∀ c ∈ again, mlagStep mlag c = mlag := by
  intro after first again mlag
  obtain ⟨hok, hlog, hmlag, hsound, hcovered⟩ := configure_of_sound o t ⟨start switches, operator⟩
    (sound_of_failOn hsound) (covered_of_contains hcover)
  have hfirst : first = (Pass.plan t.configure).calls (start switches).mlag := hlog.trans (List.nil_append _)
  have hready : Ready t (after 1).fleet := ⟨hsound, hcovered, hmlag ▸ t.settled_of_configure _⟩
  -- each further pass finds the switches as the first has left them
  have hall (n : Nat) : Ready t (after (n + 1)).fleet ∧ (after (n + 1)).fleet.mlag = mlag := by
    induction n with
    | zero => exact ⟨hready, rfl⟩
    | succ n ih =>
      obtain ⟨-, -, hsame, hnext⟩ := ih.1.configure o (start switches).mlag
      exact ⟨hnext, hsame.trans ih.2⟩
  refine ⟨fun n => ?_, fun n => ?_, fun n => (hall n).2, fun c hc => ?_⟩
  · cases n with
    | zero => exact hok
    | succ n => exact ((hall n).1.configure o (start switches).mlag).1
  · show _ = _ ++ withoutMlagSetup first
    rw [hfirst]
    exact ((hall n).1.configure o (start switches).mlag).2.1
  · obtain ⟨hmem, hsetup⟩ := List.mem_filter.1 hc
    rw [hfirst] at hmem
    exact Topology.mlagStep_of_mem_calls hmem (by simpa using hsetup) mlag

/-- Of the pair of the scenario the first member has MLAG already. Three passes: the first configures it on the second
member, and nothing else is missing in the others. -/
theorem reconfiguring_idempotent_mlagPair :
    let t := Scenario.mlagPair.topology
    let switches := SortedMap.ofList [("data_1", ⟨true, none⟩), ("data_2", ⟨false, none⟩)]
    let after := configured Script.operator t ⟨start switches, ⟨[], []⟩⟩
    let first := (after 1).fleet.log
    (Pass.run fleet Script.operator t t.configure (after 2)).1 = .ok () ∧
      (first.filter (·.configuresMlag)).map (·.switch) = ["data_2"] ∧
      (withoutMlagSetup first).length = first.length - 1 ∧
      (after 3).fleet.log = (after 2).fleet.log ++ withoutMlagSetup first ∧ (after 3).fleet.mlag = (after 1).fleet.mlag := by
  intro t switches
  have hcover : ∀ label ∈ t.switches, switches.contains label = true := by decide +kernel
  have hsound : ∀ s ∈ switches.values, s.failOn = none := by decide +kernel
  obtain ⟨hok, hagain, hmlag, -⟩ := reconfiguring_idempotent Script.operator hcover hsound ⟨[], []⟩
  -- the numbers of the passes are added up first: unifying two states would run all passes
  have hlog := hagain 1
  have hmlag := hmlag 2
  simp only [Nat.reduceAdd] at hlog hmlag
  exact ⟨hok 2, by decide +kernel, by decide +kernel, hlog, hmlag⟩

end Recording

end SwitchFabric
