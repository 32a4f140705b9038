import SwitchFabric.Proofs.Pass.Effects
import SwitchFabric.Recording

/-!
# What recording switches do with a call

A call to a recording switch either fails, and is recorded and nothing else (`logged`), or succeeds, and is
recorded and takes effect on the MLAG of its switch (`after`): `act_eq` and `isMlagConfigured_eq`. So the log
grows by the calls of a run (`log_run`), and the MLAG of all switches follows the calls that succeed
(`mlag_after`).

On switches that never fail the MLAG follows all calls (`run_of_sound`).

`actionsOn` picks out the calls on one switch. In a pass that ends well they are what is done to it (`actionsOn_calls`).
-/

namespace SwitchFabric

/-- The call of a driver that an event is, if it is one. -/
def Event.call? : Event → Option RecordedCall
  | act switch a _ => some ⟨switch, .act a⟩
  | query switch _ => some ⟨switch, .isMlagConfigured⟩
  | ask _ _ => none

namespace Recording

/-- Whether MLAG is configured on a switch. -/
def mlag (r : Recording) (label : String) : Bool := (r.switch label).mlagConfigured

/-- The call is to the failing method of its switch. -/
def fails (r : Recording) (c : RecordedCall) : Bool := (r.switch c.switch).failOn == some c.call.method

/-- The error of a call that fails. -/
def injected (c : RecordedCall) : SwitchError :=
  .verification c.switch ("injected failure in " ++ c.call.method)

/-- The MLAG of all switches after a call that succeeds. -/
def mlagStep (m : String → Bool) (c : RecordedCall) : String → Bool :=
  match c.call with
  | .act a => fun label => if label = c.switch then mlagAfter (m label) a else m label
  | .isMlagConfigured => m

/-- The MLAG of all switches after calls that succeed. -/
def mlagReplay (m : String → Bool) (cs : List RecordedCall) : String → Bool := cs.foldl mlagStep m

/-- A call recorded, and nothing else. -/
def logged (c : RecordedCall) (r : Recording) : Recording := { r with log := r.log ++ [c] }

/-- A call recorded that succeeds. -/
def after (c : RecordedCall) (r : Recording) : Recording :=
  match c.call with
  | .act a =>
    let s := r.switch c.switch
    { switches := r.switches.insert c.switch { s with mlagConfigured := mlagAfter s.mlagConfigured a }
      log := r.log ++ [c] }
  | .isMlagConfigured => logged c r

theorem record_eq (label : String) (call : Call) (r : Recording) :
    record label call r =
      if r.fails ⟨label, call⟩ then (.error (injected ⟨label, call⟩), r.logged ⟨label, call⟩)
      else (.ok (), r.logged ⟨label, call⟩) := rfl

theorem act_eq (label : String) (a : Action) (r : Recording) :
    fleet.act label a r =
      if r.fails ⟨label, .act a⟩ then (.error (injected ⟨label, .act a⟩), r.logged ⟨label, .act a⟩)
      else (.ok (), r.after ⟨label, .act a⟩) := by
  show act label a r = _
  rw [act, record_eq]
  cases r.fails ⟨label, .act a⟩ <;> rfl

theorem isMlagConfigured_eq (label : String) (r : Recording) :
    fleet.isMlagConfigured label r =
      if r.fails ⟨label, .isMlagConfigured⟩ then
        (.error (injected ⟨label, .isMlagConfigured⟩), r.logged ⟨label, .isMlagConfigured⟩)
      else (.ok (r.mlag label), r.after ⟨label, .isMlagConfigured⟩) := by
  show isMlagConfigured label r = _
  rw [isMlagConfigured, record_eq]
  cases r.fails ⟨label, .isMlagConfigured⟩ <;> rfl

@[simp] theorem log_logged (c : RecordedCall) (r : Recording) : (r.logged c).log = r.log ++ [c] := rfl

@[simp] theorem mlag_logged (c : RecordedCall) (r : Recording) : (r.logged c).mlag = r.mlag := rfl

@[simp] theorem fails_logged (c : RecordedCall) (r : Recording) : (r.logged c).fails = r.fails := rfl

@[simp] theorem log_after (c : RecordedCall) (r : Recording) : (r.after c).log = r.log ++ [c] := by
  rw [after]
  split <;> rfl

theorem switch_after (c : RecordedCall) (r : Recording) (label : String) :
    (r.after c).switch label = { r.switch label with mlagConfigured := mlagStep r.mlag c label } := by
  obtain ⟨l, _ | a⟩ := c
  · rfl
  · simp only [after, mlagStep, switch, SortedMap.get?_insert]
    by_cases h : label = l
    · rw [if_pos h, if_pos h, h]; rfl
    · rw [if_neg h, if_neg h]; rfl

@[simp] theorem mlag_after (c : RecordedCall) (r : Recording) :
    (r.after c).mlag = mlagStep r.mlag c := by
  funext label
  rw [mlag, switch_after]

@[simp] theorem fails_after (c : RecordedCall) (r : Recording) : (r.after c).fails = r.fails := by
  funext d
  rw [fails, switch_after, fails]

@[simp] theorem mlagReplay_nil (m : String → Bool) : mlagReplay m [] = m := rfl

@[simp] theorem mlagReplay_cons (m : String → Bool) (c : RecordedCall) (cs : List RecordedCall) :
    mlagReplay m (c :: cs) = mlagReplay (mlagStep m c) cs := rfl

theorem mlagReplay_append (m : String → Bool) (cs ds : List RecordedCall) :
    mlagReplay m (cs ++ ds) = mlagReplay (mlagReplay m cs) ds := List.foldl_append

theorem contains_after {r : Recording} {label : String} (c : RecordedCall)
    (h : r.switches.contains label = true) : (r.after c).switches.contains label = true := by
  obtain ⟨l, _ | a⟩ := c
  · exact h
  · show (SortedMap.get? (r.switches.insert l _) label).isSome = true
    rw [SortedMap.get?_insert]
    split
    · rfl
    · exact h

/-! ## The log of a run -/

variable {π : Type} (o : Operator π)

/-- The log grows by the calls of the run. -/
theorem log_run (p : Plan) (s : PassState Recording π) :
    (p.run fleet o s).2.fleet.log = s.fleet.log ++ (p.events fleet o s).filterMap Event.call? := by
  induction p generalizing s with
  | done => simp [Plan.run, Plan.events]
  | act switch a k ih =>
    rw [Plan.run, Plan.events, act_eq]
    cases hf : s.fleet.fails ⟨switch, .act a⟩ with
    | true => simp [Event.call?]
    | false =>
      rw [if_neg Bool.false_ne_true]
      simp only [ih, log_after, Event.call?, List.filterMap_cons, List.append_assoc, List.cons_append,
        List.nil_append]
  | query switch k ih =>
    rw [Plan.run, Plan.events, isMlagConfigured_eq]
    cases hf : s.fleet.fails ⟨switch, .isMlagConfigured⟩ with
    | true => simp [Event.call?]
    | false =>
      rw [if_neg Bool.false_ne_true]
      simp only [ih, log_after, Event.call?, List.filterMap_cons, List.append_assoc, List.cons_append,
        List.nil_append]
  | ask question k ih =>
    rw [Plan.run, Plan.events]
    rcases o.confirm question s.operator with ⟨_ | answer, operator⟩
    · simp [Event.call?]
    · simp only [ih, Event.call?, List.filterMap_cons]

/-! ## Switches that never fail -/

/-- No call fails. -/
def Sound (r : Recording) : Prop := ∀ c, r.fails c = false

/-- Switches without failing methods never fail. -/
theorem sound_of_failOn {r : Recording} (h : ∀ s ∈ r.switches.values, s.failOn = none) : r.Sound := by
  intro c
  rw [fails, switch]
  cases hs : r.switches.get? c.switch with
  | none => rfl
  | some s =>
    have hm : s ∈ r.switches.values :=
      List.mem_map.2 ⟨(c.switch, s), SortedMap.mem_entries_iff.2 hs, rfl⟩
    rw [Option.getD_some, h s hm]
    rfl

theorem Sound.after {r : Recording} (h : r.Sound) (c : RecordedCall) : (r.after c).Sound := by
  intro d
  rw [fails_after]
  exact h d

theorem Sound.act_eq {r : Recording} (h : r.Sound) (label : String) (a : Action) :
    fleet.act label a r = (.ok (), r.after ⟨label, .act a⟩) := by
  rw [Recording.act_eq, h, if_neg Bool.false_ne_true]

theorem Sound.isMlagConfigured_eq {r : Recording} (h : r.Sound) (label : String) :
    fleet.isMlagConfigured label r = (.ok (r.mlag label), r.after ⟨label, .isMlagConfigured⟩) := by
  rw [Recording.isMlagConfigured_eq, h, if_neg Bool.false_ne_true]

/-- Switches that never fail stay so, and the MLAG of all switches follows the calls of the run. -/
theorem run_of_sound (p : Plan) (s : PassState Recording π) (hs : s.fleet.Sound) :
    (p.run fleet o s).2.fleet.Sound ∧
      (p.run fleet o s).2.fleet.mlag =
        mlagReplay s.fleet.mlag ((p.events fleet o s).filterMap Event.call?) := by
  induction p generalizing s with
  | done => exact ⟨hs, rfl⟩
  | act switch a k ih =>
    rw [Plan.run, Plan.events, hs.act_eq]
    have h := ih { s with fleet := s.fleet.after ⟨switch, .act a⟩ } (hs.after _)
    rw [mlag_after] at h
    exact h
  | query switch k ih =>
    rw [Plan.run, Plan.events, hs.isMlagConfigured_eq]
    have h := ih (s.fleet.mlag switch) { s with fleet := s.fleet.after ⟨switch, .isMlagConfigured⟩ }
      (hs.after _)
    rw [mlag_after] at h
    exact h
  | ask question k ih =>
    rw [Plan.run, Plan.events]
    rcases o.confirm question s.operator with ⟨_ | answer, operator⟩
    · exact ⟨hs, rfl⟩
    · exact ih answer { s with operator := operator } hs

/-! ## Passes -/

/-- Recording switches for all labels. -/
theorem covered_of_contains {labels : List String} {r : Recording}
    (h : ∀ label ∈ labels, r.switches.contains label = true) : Pass.missingDriver fleet labels r = none :=
  (Pass.missingDriver_eq_none_iff fleet).2 h

/-- Switches that all have drivers keep them. -/
theorem covered_run {labels : List String} (p : Plan) {s : PassState Recording π}
    (h : Pass.missingDriver fleet labels s.fleet = none) :
    Pass.missingDriver fleet labels (p.run fleet o s).2.fleet = none := by
  rw [Pass.missingDriver_eq_none_iff] at h ⊢
  intro label hl
  refine Plan.run_keeps fleet o (P := fun r => r.switches.contains label = true) ?_ ?_ p (h label hl)
  · intro switch a r hr
    rw [act_eq]
    split
    · exact hr
    · exact contains_after _ hr
  · intro switch r hr
    rw [isMlagConfigured_eq]
    split
    · exact hr
    · exact hr

theorem log_pass (t : Topology) (pass : List Step) (s : PassState Recording π) :
    (Pass.run fleet o t pass s).2.fleet.log =
      s.fleet.log ++ (Pass.events fleet o t pass s).filterMap Event.call? := by
  cases h : Pass.missingDriver fleet t.switches s.fleet with
  | some label =>
    rw [Pass.run_of_missing fleet o h, Pass.events_of_missing fleet o h]
    exact (List.append_nil _).symm
  | none =>
    rw [Pass.run_of_covered fleet o h, Pass.events_of_covered fleet o h]
    exact log_run o _ s

theorem pass_of_sound (t : Topology) (pass : List Step) (s : PassState Recording π)
    (hs : s.fleet.Sound) :
    (Pass.run fleet o t pass s).2.fleet.Sound ∧
      (Pass.run fleet o t pass s).2.fleet.mlag =
        mlagReplay s.fleet.mlag ((Pass.events fleet o t pass s).filterMap Event.call?) := by
  cases h : Pass.missingDriver fleet t.switches s.fleet with
  | some label =>
    rw [Pass.run_of_missing fleet o h, Pass.events_of_missing fleet o h]
    exact ⟨hs, rfl⟩
  | none =>
    rw [Pass.run_of_covered fleet o h, Pass.events_of_covered fleet o h]
    exact run_of_sound o _ s hs

/-! ## Calls on one switch -/

/-- The actions called on a switch. -/
def actionsOn (label : String) (cs : List RecordedCall) : List Action :=
  cs.filterMap fun c =>
    match c.call with
    | .act a => if c.switch = label then some a else none
    | .isMlagConfigured => none

theorem actionsOn_append (label : String) (cs ds : List RecordedCall) :
    actionsOn label (cs ++ ds) = actionsOn label cs ++ actionsOn label ds := List.filterMap_append

theorem count_actionsOn (label : String) (a : Action) (cs : List RecordedCall) :
    (actionsOn label cs).count a = cs.count ⟨label, .act a⟩ := by
  rw [actionsOn, List.count_filterMap, List.count]
  refine List.countP_congr fun c _ => ?_
  obtain ⟨switch, _ | b⟩ := c
  · simp
  · by_cases hs : switch = label <;> simp [hs]

theorem mem_actionsOn {label : String} {cs : List RecordedCall} {a : Action} :
    a ∈ actionsOn label cs ↔ ⟨label, .act a⟩ ∈ cs := by
  rw [← List.count_pos_iff, count_actionsOn, List.count_pos_iff]

/-- In a pass that ends well, what is called on a switch is what is done to it. -/
theorem actionsOn_calls {σ π : Type} {f : Fleet σ} {o : Operator π} {t : Topology} {pass : List Step} {s : PassState σ π}
    (hok : (Pass.run f o t pass s).1 = .ok ()) (label : String) :
    actionsOn label ((Pass.events f o t pass s).filterMap Event.call?) = effects label (Pass.events f o t pass s) := by
  rw [actionsOn, effects, List.filterMap_filterMap]
  refine List.filterMap_congr fun e he => ?_
  have hended := Pass.error?_of_ok hok he
  cases e with
  | act switch a outcome =>
    cases outcome with
    | error why => cases hended
    | ok => rfl
  | query switch answer | ask question answer => rfl

end Recording

end SwitchFabric
