import SwitchFabric.Cluster.Builder
import SwitchFabric.Pass.Configure
import SwitchFabric.Proofs.Recording.Calls

/-!
# A failure ends a pass where it happens

Two fleets of recording switches with the same MLAG, one of which never fails, are run through the same plan
with the same operator. `failStop_run` says how the runs compare, by induction on the plan: they agree on
every call up to the first that is to the failing method of its switch (`FailStop.stopped`), or to the end if
there is none (`FailStop.unaffected`). `injected_fail_stop` says so of the two passes, of which one starts with
a failing method injected into each of any of the switches.
-/

namespace SwitchFabric.Recording

/-- Two recordings alike but for failures, of which the second has none. -/
structure Twin (r r' : Recording) : Prop where
  log : r.log = r'.log
  mlag : r.mlag = r'.mlag
  sound : r'.Sound

theorem Twin.after {r r' : Recording} (h : Twin r r') (c : RecordedCall) : Twin (r.after c) (r'.after c) where
  log := by rw [log_after, log_after, h.log]
  mlag := by rw [mlag_after, mlag_after, h.mlag]
  sound := h.sound.after c

variable {π : Type}

/-- How a run compares with the clean one, in which nothing fails, after a common start. -/
inductive FailStop (fails : RecordedCall → Bool) (start : Recording)
    (clean run : Except PassError Unit × PassState Recording π) : Prop where
  /-- No call of the clean run fails, and the run is the clean one. -/
  | unaffected (calls : List RecordedCall) (hlog : clean.2.fleet.log = start.log ++ calls)
    (hcalls : ∀ c ∈ calls, fails c = false) (hresult : run.1 = clean.1)
    (htwin : Twin run.2.fleet clean.2.fleet) (hoperator : run.2.operator = clean.2.operator)
  /-- The run ends with the first call of the clean one that fails, which has no effect. -/
  | stopped (calls later : List RecordedCall) (c : RecordedCall)
    (hlog : clean.2.fleet.log = start.log ++ (calls ++ c :: later))
    (hcalls : ∀ d ∈ calls, fails d = false) (hc : fails c = true)
    (hresult : run.1 = .error (.switch c.switch (injected c)))
    (hrun : run.2.fleet.log = start.log ++ (calls ++ [c]))
    (hmlag : run.2.fleet.mlag = mlagReplay start.mlag calls)

/-- What is said of the runs after a call that succeeds, said of the runs before it. -/
theorem FailStop.cons {fails : RecordedCall → Bool} {start : Recording} {c : RecordedCall}
    {clean run : Except PassError Unit × PassState Recording π} (hc : fails c = false)
    (h : FailStop fails (start.after c) clean run) : FailStop fails start clean run := by
  cases h with
  | unaffected calls hlog hcalls hresult htwin hoperator =>
    refine .unaffected (c :: calls) ?_ ?_ hresult htwin hoperator
    · rw [hlog, log_after, List.append_assoc, List.singleton_append]
    · exact List.forall_mem_cons.2 ⟨hc, hcalls⟩
  | stopped calls later d hlog hcalls hd hresult hrun hmlag =>
    refine .stopped (c :: calls) later d ?_ ?_ hd hresult ?_ ?_
    · rw [hlog, log_after, List.append_assoc, List.singleton_append, List.cons_append]
    · exact List.forall_mem_cons.2 ⟨hc, hcalls⟩
    · rw [hrun, log_after, List.append_assoc, List.singleton_append, List.cons_append]
    · rw [hmlag, mlag_after, mlagReplay_cons]

/-- The clean run goes on after a call, with which the other run ends. -/
theorem FailStop.of_fails {fails : RecordedCall → Bool} {s : PassState Recording π} {r : Recording}
    {c : RecordedCall} {clean : Except PassError Unit × PassState Recording π}
    (hclean : ∃ later, clean.2.fleet.log = (r.after c).log ++ later) (hlog : s.fleet.log = r.log)
    (hc : fails c = true) :
    FailStop fails s.fleet clean
      (.error (.switch c.switch (injected c)), { s with fleet := s.fleet.logged c }) := by
  obtain ⟨later, h⟩ := hclean
  refine .stopped [] later c ?_ (by simp) hc rfl (by simp) rfl
  rw [h, log_after, hlog, List.append_assoc, List.singleton_append, List.nil_append]

variable (o : Operator π)

/-- The two runs of a plan, by induction on it. -/
theorem failStop_run (p : Plan) {s s' : PassState Recording π} (htwin : Twin s.fleet s'.fleet)
    (hop : s.operator = s'.operator) :
    FailStop s.fleet.fails s.fleet (p.run fleet o s') (p.run fleet o s) := by
  induction p generalizing s s' with
  | done => exact .unaffected [] (by simp [Plan.run, htwin.log]) (by simp) rfl htwin hop
  | act switch a k ih =>
    rw [Plan.run, Plan.run, htwin.sound.act_eq, act_eq]
    cases hc : s.fleet.fails ⟨switch, .act a⟩ with
    | true => exact .of_fails ⟨_, log_run o k _⟩ htwin.log hc
    | false =>
      have h := @ih { s with fleet := s.fleet.after ⟨switch, .act a⟩ }
        { s' with fleet := s'.fleet.after ⟨switch, .act a⟩ } (htwin.after ⟨switch, .act a⟩) hop
      rw [fails_after] at h
      exact h.cons hc
  | query switch k ih =>
    rw [Plan.run, Plan.run, htwin.sound.isMlagConfigured_eq, isMlagConfigured_eq, htwin.mlag]
    cases hc : s.fleet.fails ⟨switch, .isMlagConfigured⟩ with
    | true => exact .of_fails ⟨_, log_run o (k _) _⟩ htwin.log hc
    | false =>
      have h := @ih (s'.fleet.mlag switch)
        { s with fleet := s.fleet.after ⟨switch, .isMlagConfigured⟩ }
        { s' with fleet := s'.fleet.after ⟨switch, .isMlagConfigured⟩ }
        (htwin.after ⟨switch, .isMlagConfigured⟩) hop
      rw [fails_after] at h
      exact h.cons hc
  | ask question k ih =>
    rw [Plan.run, Plan.run, hop]
    rcases o.confirm question s'.operator with ⟨_ | answer, operator⟩
    · exact .unaffected [] (by simp [htwin.log]) (by simp) rfl htwin rfl
    · exact @ih answer { s with operator := operator } { s' with operator := operator } htwin rfl

/-! ## Injected failures -/

/-- The switches with the failing method of each as given, if there is one. -/
def inject (failing : String → Option String) (switches : SortedMap String RecordingSwitch) :
    SortedMap String RecordingSwitch :=
  switches.mapValues fun label s => { s with failOn := failing label }

theorem contains_inject (failing : String → Option String) (switches : SortedMap String RecordingSwitch)
    (label : String) : (inject failing switches).contains label = switches.contains label := by
  rw [inject, SortedMap.contains, SortedMap.get?_mapValues, Option.isSome_map, SortedMap.contains]

/-- The switch with a label, if failures are injected. -/
theorem switch_start_inject (failing : String → Option String)
    (switches : SortedMap String RecordingSwitch) (label : String) :
    (start (inject failing switches)).switch label =
      ((switches.get? label).map fun s => { s with failOn := failing label }).getD .plain := by
  rw [switch, start, inject, SortedMap.get?_mapValues]

theorem mlag_start_inject (failing : String → Option String)
    (switches : SortedMap String RecordingSwitch) :
    (start (inject failing switches)).mlag = (start switches).mlag := by
  funext label
  rw [mlag, mlag, switch_start_inject, switch, start]
  cases switches.get? label <;> rfl

theorem sound_start_inject (switches : SortedMap String RecordingSwitch) :
    (start (inject (fun _ => none) switches)).Sound := by
  intro c
  rw [fails, switch_start_inject]
  cases switches.get? c.switch <;> rfl

theorem twin_start_inject (failing : String → Option String)
    (switches : SortedMap String RecordingSwitch) :
    Twin (start (inject failing switches)) (start (inject (fun _ => none) switches)) where
  log := rfl
  mlag := by rw [mlag_start_inject, mlag_start_inject]
  sound := sound_start_inject switches

theorem missingDriver_inject (failing failing' : String → Option String)
    (switches : SortedMap String RecordingSwitch) (labels : List String) :
    Pass.missingDriver fleet labels (start (inject failing switches)) =
      Pass.missingDriver fleet labels (start (inject failing' switches)) := by
  have h : ∀ label, fleet.hasDriver label (start (inject failing switches)) =
      fleet.hasDriver label (start (inject failing' switches)) := fun label => by
    show (inject failing switches).contains label = (inject failing' switches).contains label
    rw [contains_inject, contains_inject]
  rw [Pass.missingDriver, Pass.missingDriver]
  simp only [h]

/-- A pass over a topology, after failures were injected into the switches. -/
def injectedRun (t : Topology) (pass : List Step) (failing : String → Option String)
    (switches : SortedMap String RecordingSwitch) (operator : π) :
    Except PassError Unit × PassState Recording π :=
  Pass.run fleet o t pass ⟨start (inject failing switches), operator⟩

/-- How a pass with injected failures compares with the one without. -/
theorem failStop_injectedRun (t : Topology) (pass : List Step) (failing : String → Option String)
    (switches : SortedMap String RecordingSwitch) (operator : π) :
    FailStop (start (inject failing switches)).fails (start (inject failing switches))
      (injectedRun o t pass (fun _ => none) switches operator)
      (injectedRun o t pass failing switches operator) := by
  have htwin := twin_start_inject failing switches
  have hmissing := missingDriver_inject failing (fun _ => none) switches t.switches
  rw [injectedRun, injectedRun]
  cases h : Pass.missingDriver fleet t.switches (start (inject failing switches)) with
  | some label =>
    have h' := hmissing.symm.trans h
    rw [Pass.run_of_missing fleet o h', Pass.run_of_missing fleet o h]
    exact .unaffected [] rfl (by simp) rfl htwin rfl
  | none =>
    have h' := hmissing.symm.trans h
    rw [Pass.run_of_covered fleet o h', Pass.run_of_covered fleet o h]
    exact @failStop_run _ o _ ⟨_, operator⟩ ⟨_, operator⟩ htwin rfl

/-- What comes before the first element with a property is unique, and so is the element. -/
theorem first_unique {α : Type} {p : α → Bool} {a b : α} :
    ∀ {as bs as' bs' : List α}, as ++ a :: as' = bs ++ b :: bs' → (∀ x ∈ as, p x = false) →
      p a = true → (∀ x ∈ bs, p x = false) → p b = true → as = bs ∧ a = b
  | [], [], _, _, h, _, _, _, _ => ⟨rfl, (List.cons.inj h).1⟩
  | [], y :: bs, _, _, h, _, ha, hbs, _ => by
    rw [(List.cons.inj h).1, hbs y List.mem_cons_self] at ha
    cases ha
  | x :: as, [], _, _, h, has, _, _, hb => by
    rw [← (List.cons.inj h).1, has x List.mem_cons_self] at hb
    cases hb
  | x :: as, y :: bs, _, _, h, has, ha, hbs, hb => by
    obtain ⟨hxy, h⟩ := List.cons.inj h
    obtain ⟨rfl, rfl⟩ := first_unique h (fun z hz => has z (List.mem_cons_of_mem _ hz)) ha
      (fun z hz => hbs z (List.mem_cons_of_mem _ hz)) hb
    rw [hxy]
    exact ⟨rfl, rfl⟩

/-- Configuring and deconfiguring are fail-stop. Let the pass be run without failures, and again with a
failing method injected into any of the switches. If some call of the first run is to the failing method of
its switch, then the second run makes the calls up to the first such call, and no further one; it ends with
that call's error, and the MLAG of every switch is as the calls before it have left it. If there is no such
call, the two runs make the same calls, end alike and leave the same MLAG. -/
theorem injected_fail_stop (t : Topology) (failing : String → Option String)
    (switches : SortedMap String RecordingSwitch) (operator : π) :
    ∀ pass ∈ [t.configure, t.deconfigure],
    let fails := (start (inject failing switches)).fails
    let clean := injectedRun o t pass (fun _ => none) switches operator
    let run := injectedRun o t pass failing switches operator
    clean.2.fleet.mlag = mlagReplay (start switches).mlag clean.2.fleet.log ∧
    (∀ calls c later, clean.2.fleet.log = calls ++ c :: later → (∀ d ∈ calls, fails d = false) →
      fails c = true →
        run.2.fleet.log = calls ++ [c] ∧ run.1 = .error (.switch c.switch (injected c)) ∧
        run.2.fleet.mlag = mlagReplay (start switches).mlag calls) ∧
    ((∀ c ∈ clean.2.fleet.log, fails c = false) →
      run.2.fleet.log = clean.2.fleet.log ∧ run.1 = clean.1 ∧
      run.2.fleet.mlag = clean.2.fleet.mlag) := by
  intro pass _ fails clean run
  refine ⟨?_, ?_⟩
  · have hs := (pass_of_sound o t pass ⟨start (inject (fun _ => none) switches), operator⟩
      (sound_start_inject switches)).2
    have hlog := log_pass o t pass ⟨start (inject (fun _ => none) switches), operator⟩
    rw [mlag_start_inject] at hs
    exact hs.trans (congrArg _ hlog.symm)
  have h : FailStop fails _ clean run := failStop_injectedRun o t pass failing switches operator
  cases h with
  | unaffected calls hlog hcalls hresult htwin hoperator =>
    have hlog : clean.2.fleet.log = calls := hlog
    refine ⟨fun before c later h hbefore hc => ?_, fun _ => ⟨htwin.log, hresult, htwin.mlag⟩⟩
    have hmem : c ∈ calls := by rw [← hlog, h]; simp
    rw [hcalls c hmem] at hc
    cases hc
  | stopped calls later c hlog hcalls hc hresult hrun hmlag =>
    have hlog : clean.2.fleet.log = calls ++ c :: later := hlog
    refine ⟨fun before d after h hbefore hd => ?_, fun h => ?_⟩
    · obtain ⟨rfl, rfl⟩ := first_unique (h.symm.trans hlog) hbefore hd hcalls hc
      exact ⟨hrun, hresult, hmlag.trans (by rw [mlag_start_inject])⟩
    · rw [h c (by rw [hlog]; simp)] at hc
      cases hc

/-- MLAG is taken down on the first member of a pair and fails to be on the second: the ports keep their
VLANs, and the second member keeps MLAG. -/
theorem injected_fail_stop_mlagPair :
    let t := Scenario.mlagPair.topology
    let failing := fun label => if label = "data_2" then some "deconfigure_mlag" else none
    let switches := SortedMap.ofList [("data_1", ⟨true, none⟩), ("data_2", ⟨true, none⟩)]
    let run := injectedRun Script.operator t t.deconfigure failing switches ⟨[true, true], []⟩
    run.1 = .error (.switch "data_2" (injected ⟨"data_2", .act .deconfigureMlag⟩)) ∧
      run.2.fleet.log.length = 10 ∧ run.2.fleet.mlag "data_1" = false ∧
      run.2.fleet.mlag "data_2" = true := by
  intro t failing switches run
  obtain ⟨hlog, hresult, hmlag⟩ :=
    (injected_fail_stop Script.operator t failing switches ⟨[true, true], []⟩ t.deconfigure (by simp)).2.1
      ((injectedRun Script.operator t t.deconfigure (fun _ => none) switches
        ⟨[true, true], []⟩).2.fleet.log.take 9)
      ⟨"data_2", .act .deconfigureMlag⟩
      ((injectedRun Script.operator t t.deconfigure (fun _ => none) switches
        ⟨[true, true], []⟩).2.fleet.log.drop 10)
      (by decide +kernel) (by decide +kernel) (by decide +kernel)
  refine ⟨hresult, ?_, ?_, ?_⟩
  · rw [hlog]
    decide +kernel
  · rw [hmlag]
    decide +kernel
  · rw [hmlag]
    decide +kernel

end SwitchFabric.Recording
