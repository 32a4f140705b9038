import SwitchFabric.Proofs.Pass.Steps
import SwitchFabric.Proofs.Recording.Calls

/-!
# Calls that are known in advance

On switches that never fail, a pass whose questions are all answered with consent ends well, and its calls
follow from its plan and the MLAG of the switches before it (`run_of_agreed`, `pass_of_agreed`). The calls of a
list of steps are those of each step, at the MLAG that the steps before it leave (`Pass.mem_calls_iff`).

Steps that do not take MLAG down keep it where it is (`Pass.mlag_of_quiet`), and configuring leaves it on every
member of a pair (`Topology.mlag_of_configure`).
-/

namespace SwitchFabric

open Recording (mlagStep mlagReplay mlagAfter)

/-- The event is no question to the operator, or one that is answered with consent. -/
def Event.agreed : Event → Bool
  | ask _ answer => answer.toOption == some true
  | act _ _ _ | query _ _ => true

/-- The operator consents to whatever is asked. -/
def Agreed (es : List Event) : Prop := ∀ e ∈ es, e.agreed = true

instance (es : List Event) : Decidable (Agreed es) :=
  inferInstanceAs (Decidable (∀ e ∈ es, e.agreed = true))

/-- Where nothing is asked, there is consent to all that is asked. -/
theorem Pass.agreed_of_quiet {σ π : Type} (f : Fleet σ) (o : Operator π) {ts : List Step}
    (hts : ∀ t ∈ ts, t.Quiet) (s : PassState σ π) : Agreed ((plan ts).events f o s) := by
  intro e he
  obtain ⟨t, ht, hp⟩ := permits_of_mem_events f o he
  cases hp with
  | act outcome ha => rfl
  | query answer => rfl
  | ask answer hq =>
    rw [(hts t ht).1] at hq
    cases hq

/-- The calls of a plan on switches that never fail, whose MLAG is as in `m`, if the operator consents to
everything. -/
def Plan.calls : Plan → (String → Bool) → List RecordedCall
  | done, _ => []
  | act switch a k, m => ⟨switch, .act a⟩ :: k.calls (mlagStep m ⟨switch, .act a⟩)
  | query switch k, m => ⟨switch, .isMlagConfigured⟩ :: (k (m switch)).calls m
  | ask _ k, m => (k true).calls m

namespace Recording

variable {π : Type} (o : Operator π)

/-- On switches that never fail, and with consent to every question that is asked, a run ends well and makes
the calls of its plan. -/
theorem run_of_agreed (p : Plan) (s : PassState Recording π) (hs : s.fleet.Sound)
    (hyes : Agreed (p.events fleet o s)) :
    (p.run fleet o s).1 = .ok () ∧
      (p.events fleet o s).filterMap Event.call? = p.calls s.fleet.mlag := by
  induction p generalizing s with
  | done => exact ⟨rfl, rfl⟩
  | act switch a k ih =>
    rw [Plan.events, hs.act_eq] at hyes
    have h := ih { s with fleet := s.fleet.after ⟨switch, .act a⟩ } (hs.after _)
      (List.forall_mem_cons.1 hyes).2
    rw [mlag_after] at h
    rw [Plan.run, Plan.events, hs.act_eq, Plan.calls]
    exact h.imp_right (congrArg _)
  | query switch k ih =>
    rw [Plan.events, hs.isMlagConfigured_eq] at hyes
    have h := ih (s.fleet.mlag switch) { s with fleet := s.fleet.after ⟨switch, .isMlagConfigured⟩ }
      (hs.after _) (List.forall_mem_cons.1 hyes).2
    rw [mlag_after] at h
    rw [Plan.run, Plan.events, hs.isMlagConfigured_eq, Plan.calls]
    exact h.imp_right (congrArg _)
  | ask question k ih =>
    rw [Plan.events] at hyes
    obtain ⟨hanswer, hyes⟩ := List.forall_mem_cons.1 hyes
    rw [Plan.run, Plan.events, Plan.calls]
    rcases hc : o.confirm question s.operator with ⟨_ | _ | _, operator⟩ <;> rw [hc] at hanswer hyes
    · cases hanswer
    · cases hanswer
    · exact ih true { s with operator := operator } hs hyes

/-- The same of a pass over switches that all have drivers. -/
theorem pass_of_agreed (t : Topology) (pass : List Step) (s : PassState Recording π) (hs : s.fleet.Sound)
    (hcovered : Pass.missingDriver fleet t.switches s.fleet = none)
    (hyes : Agreed (Pass.events fleet o t pass s)) :
    (Pass.run fleet o t pass s).1 = .ok () ∧
      (Pass.run fleet o t pass s).2.fleet.log = s.fleet.log ++ (Pass.plan pass).calls s.fleet.mlag ∧
      (Pass.run fleet o t pass s).2.fleet.mlag =
        mlagReplay s.fleet.mlag ((Pass.plan pass).calls s.fleet.mlag) := by
  rw [log_pass o t pass s, (pass_of_sound o t pass s hs).2, Pass.run_of_covered fleet o hcovered]
  rw [Pass.events_of_covered fleet o hcovered] at hyes ⊢
  obtain ⟨hok, hcalls⟩ := run_of_agreed o (Pass.plan pass) s hs hyes
  rw [hcalls]
  exact ⟨hok, rfl, rfl⟩

/-- Configuring switches that never fail and all have drivers ends well, and they stay as they are in this. -/
theorem configure_of_sound (t : Topology) (s : PassState Recording π) (hs : s.fleet.Sound)
    (hcovered : Pass.missingDriver fleet t.switches s.fleet = none) :
    let run := Pass.run fleet o t t.configure s
    let calls := (Pass.plan t.configure).calls s.fleet.mlag
    run.1 = .ok () ∧ run.2.fleet.log = s.fleet.log ++ calls ∧
      run.2.fleet.mlag = mlagReplay s.fleet.mlag calls ∧ run.2.fleet.Sound ∧
      Pass.missingDriver fleet t.switches run.2.fleet = none := by
  intro run calls
  have hyes : Agreed (Pass.events fleet o t t.configure s) := by
    rw [Pass.events_of_covered fleet o hcovered]
    exact Pass.agreed_of_quiet fleet o (fun u => Topology.quiet_configure) _
  obtain ⟨hok, hlog, hmlag⟩ := pass_of_agreed o t t.configure s hs hcovered hyes
  refine ⟨hok, hlog, hmlag, (pass_of_sound o t t.configure s hs).1, ?_⟩
  show Pass.missingDriver fleet t.switches (Pass.run fleet o t t.configure s).2.fleet = none
  rw [Pass.run_of_covered fleet o hcovered]
  exact covered_run o _ hcovered

end Recording

/-! ## The calls of steps -/

/-- The calls of one step, if the operator consents. -/
def Step.calls : Step → (String → Bool) → List RecordedCall
  | act switch a, _ => [⟨switch, .act a⟩]
  | whenMlag switch configured as, m =>
    ⟨switch, .isMlagConfigured⟩ :: if m switch = configured then as.map (⟨switch, .act ·⟩) else []
  | withConsent switch _ as, m =>
    ⟨switch, .isMlagConfigured⟩ :: if m switch then as.map (⟨switch, .act ·⟩) else []

theorem Plan.calls_actions (switch : String) (as : List Action) (k : Plan) (m : String → Bool) :
    (actions switch as k).calls m =
      as.map (⟨switch, .act ·⟩) ++ k.calls (mlagReplay m (as.map (⟨switch, .act ·⟩))) := by
  induction as generalizing m with
  | nil => rfl
  | cons a as ih => rw [actions_cons, calls, ih, List.map_cons, Recording.mlagReplay_cons, List.cons_append]

theorem Step.calls_plan (t : Step) (k : Plan) (m : String → Bool) :
    (t.plan k).calls m = t.calls m ++ k.calls (mlagReplay m (t.calls m)) := by
  cases t with
  | act switch a => rfl
  | whenMlag switch configured as =>
    rw [plan, Plan.calls, calls]
    by_cases h : m switch = configured
    · rw [if_pos h, if_pos (beq_iff_eq.2 h), Plan.calls_actions]
      rfl
    · rw [if_neg h, if_neg (mt beq_iff_eq.1 h)]
      rfl
  | withConsent switch question as =>
    rw [plan, Plan.calls, calls]
    cases h : m switch with
    | false => rfl
    | true =>
      rw [if_pos rfl, if_pos rfl, Plan.calls, if_pos rfl, Plan.calls_actions]
      rfl

namespace Pass

theorem calls_cons (t : Step) (ts : List Step) (m : String → Bool) :
    (plan (t :: ts)).calls m = t.calls m ++ (plan ts).calls (mlagReplay m (t.calls m)) := by
  rw [plan_cons, Step.calls_plan]

theorem calls_append (ts us : List Step) (m : String → Bool) :
    (plan (ts ++ us)).calls m =
      (plan ts).calls m ++ (plan us).calls (mlagReplay m ((plan ts).calls m)) := by
  induction ts generalizing m with
  | nil => rfl
  | cons t ts ih =>
    rw [List.cons_append, calls_cons, ih, calls_cons, Recording.mlagReplay_append, List.append_assoc]

/-- A call is one of a step, at the MLAG that the steps before it leave. -/
theorem mem_calls_iff {c : RecordedCall} {ts : List Step} {m : String → Bool} :
    c ∈ (plan ts).calls m ↔ ∃ before t after, ts = before ++ t :: after ∧
      c ∈ t.calls (mlagReplay m ((plan before).calls m)) := by
  induction ts generalizing m with
  | nil => simp [plan_nil, Plan.calls]
  | cons t ts ih =>
    rw [calls_cons, List.mem_append, ih]
    constructor
    · rintro (h | ⟨before, u, after, rfl, h⟩)
      · exact ⟨[], t, ts, rfl, h⟩
      · refine ⟨t :: before, u, after, rfl, ?_⟩
        rw [calls_cons, Recording.mlagReplay_append]
        exact h
    · rintro ⟨before, u, after, hts, h⟩
      cases before with
      | nil =>
        obtain ⟨rfl, rfl⟩ := List.cons.inj hts
        exact .inl h
      | cons t' before =>
        obtain ⟨rfl, rfl⟩ := List.cons.inj hts
        rw [calls_cons, Recording.mlagReplay_append] at h
        exact .inr ⟨before, u, after, rfl, h⟩

/-- Plain actions are done whatever the MLAG of the switches is. -/
theorem calls_of_acts {ts : List Step} (h : ∀ u ∈ ts, ∃ switch a, u = .act switch a)
    (m m' : String → Bool) : (plan ts).calls m = (plan ts).calls m' := by
  induction ts generalizing m m' with
  | nil => rfl
  | cons t ts ih =>
    obtain ⟨switch, a, rfl⟩ := h t List.mem_cons_self
    rw [calls_cons, calls_cons]
    exact congrArg _ (ih (fun u hu => h u (List.mem_cons_of_mem _ hu)) _ _)

end Pass

/-- An action is called by a step that may do it. -/
theorem Step.mem_actions_of_mem_calls {t : Step} {m : String → Bool} {switch : String} {a : Action}
    (h : ⟨switch, .act a⟩ ∈ t.calls m) : switch = t.switch ∧ a ∈ t.actions := by
  have hact {l : String} {as : List Action}
      (h : (⟨switch, .act a⟩ : RecordedCall) ∈ as.map (⟨l, .act ·⟩)) : switch = l ∧ a ∈ as := by
    obtain ⟨b, hb, heq⟩ := List.mem_map.1 h
    cases heq
    exact ⟨rfl, hb⟩
  cases t with
  | act l b => exact @hact l [b] h
  | whenMlag l configured as | withConsent l question as =>
    rw [calls] at h
    rcases List.mem_cons.1 h with heq | h
    · cases heq
    · split at h
      · exact hact h
      · cases h

theorem Pass.exists_step_of_mem_calls {ts : List Step} {m : String → Bool} {switch : String} {a : Action}
    (h : ⟨switch, .act a⟩ ∈ (plan ts).calls m) : ∃ t ∈ ts, switch = t.switch ∧ a ∈ t.actions := by
  obtain ⟨before, t, after, rfl, ht⟩ := mem_calls_iff.1 h
  exact ⟨t, by simp, Step.mem_actions_of_mem_calls ht⟩

/-! ## MLAG in the course of steps -/

/-- MLAG stays as long as it is not taken down. -/
theorem Recording.mlagReplay_of_true {m : String → Bool} {label : String} {cs : List RecordedCall}
    (h : m label = true) (hcs : ⟨label, .act .deconfigureMlag⟩ ∉ cs) : mlagReplay m cs label = true := by
  induction cs generalizing m with
  | nil => exact h
  | cons c cs ih =>
    rw [List.mem_cons, not_or] at hcs
    obtain ⟨hc, hcs⟩ := hcs
    refine ih ?_ hcs
    obtain ⟨l, _ | a⟩ := c
    · exact h
    · show (if label = l then mlagAfter (m label) a else m label) = true
      split
      · next hl =>
        cases a <;> first | rfl | exact h | exact absurd (by rw [hl]) hc
      · exact h

/-- A switch does not come to have MLAG without it being configured. -/
theorem Recording.mlagReplay_of_false {m : String → Bool} {label : String} {cs : List RecordedCall}
    (h : m label = false) (hcs : ∀ params, ⟨label, .act (.configureMlag params)⟩ ∉ cs) :
    mlagReplay m cs label = false := by
  induction cs generalizing m with
  | nil => exact h
  | cons c cs ih =>
    refine ih ?_ fun params hm => hcs params (List.mem_cons_of_mem _ hm)
    obtain ⟨l, _ | a⟩ := c
    · exact h
    · show (if label = l then mlagAfter (m label) a else m label) = false
      split
      · next hl =>
        cases a with
        | configureMlag params => exact absurd (by rw [hl]; exact List.mem_cons_self) (hcs params)
        | deconfigureMlag => rfl
        | _ => exact h
      · exact h

/-- A switch that has MLAG keeps it in steps that do not take it down. -/
theorem Pass.mlag_of_quiet {ts : List Step} {m : String → Bool} {label : String} (hts : ∀ t ∈ ts, t.Quiet)
    (h : m label = true) : mlagReplay m ((plan ts).calls m) label = true := by
  refine Recording.mlagReplay_of_true h fun hc => ?_
  obtain ⟨t, ht, -, ha⟩ := exists_step_of_mem_calls hc
  exact (hts t ht).2 ha

/-- Where a step configures MLAG unless it is there, it is there after the steps, if none takes it down. -/
theorem Pass.mlag_of_whenMlag {ts : List Step} {switch : String} {params : MlagParams}
    (h : .whenMlag switch false [.configureMlag params] ∈ ts) (hts : ∀ t ∈ ts, t.Quiet)
    (m : String → Bool) : mlagReplay m ((plan ts).calls m) switch = true := by
  obtain ⟨before, after, rfl⟩ := List.append_of_mem h
  rw [calls_append, calls_cons, Recording.mlagReplay_append, Recording.mlagReplay_append]
  refine mlag_of_quiet (fun t ht => hts t (List.mem_append_right _ (List.mem_cons_of_mem _ ht))) ?_
  generalize mlagReplay m ((plan before).calls m) = m'
  rw [Step.calls]
  cases hm : m' switch with
  | true =>
    rw [if_neg (by decide)]
    exact hm
  | false =>
    rw [if_pos rfl]
    show (if switch = switch then true else m' switch) = true
    rw [if_pos rfl]

/-- Where MLAG is there to be enabled, each switch says so and it is enabled. -/
theorem Pass.calls_enabling {labels : List String} {m : String → Bool} (h : ∀ label ∈ labels, m label = true) :
    (plan (labels.map fun label => .whenMlag label true [.enableMlag])).calls m =
      labels.flatMap fun label => [⟨label, .isMlagConfigured⟩, ⟨label, .act .enableMlag⟩] := by
  induction labels with
  | nil => rfl
  | cons label labels ih =>
    obtain ⟨hlabel, hlabels⟩ := List.forall_mem_cons.1 h
    have hkept : mlagReplay m ((Step.whenMlag label true [.enableMlag]).calls m) = m := by
      rw [Step.calls, if_pos hlabel]
      funext l
      exact ite_self _
    rw [List.map_cons, calls_cons, hkept, ih hlabels, Step.calls, if_pos hlabel]
    rfl

namespace Topology

/-- What makes sure that the members of a pair have MLAG. -/
def setupSteps (p : MlagPair) : List Step :=
  p.members.map fun m => .whenMlag m.switch false [.configureMlag (m.params p.iplChannel)]

/-- By the time that MLAG is to be enabled on the members of a pair, they have it. -/
theorem calls_configurePair (p : MlagPair) (m : String → Bool) :
    (Pass.plan (configurePair p)).calls m = (Pass.plan (setupSteps p)).calls m ++
      (p.members.map (·.switch)).flatMap fun label => [⟨label, .isMlagConfigured⟩, ⟨label, .act .enableMlag⟩] := by
  have hpair : configurePair p =
      setupSteps p ++ (p.members.map (·.switch)).map fun label => .whenMlag label true [.enableMlag] := by
    rw [configurePair, List.map_map]
    rfl
  have hquiet : ∀ u ∈ setupSteps p, u.Quiet := fun u hu => by
    obtain ⟨member, -, rfl⟩ := List.mem_map.1 hu
    exact ⟨rfl, by simp [Step.actions]⟩
  rw [hpair, Pass.calls_append, Pass.calls_enabling]
  intro label hl
  obtain ⟨member, hmem, rfl⟩ := List.mem_map.1 hl
  exact Pass.mlag_of_whenMlag (List.mem_map.2 ⟨member, hmem, rfl⟩) hquiet m

/-- Configuring leaves MLAG on the members of pairs. -/
theorem mlag_of_configure {t : Topology} {label : String} (h : label ∈ t.memberLabels) (m : String → Bool) :
    mlagReplay m ((Pass.plan t.configure).calls m) label = true := by
  obtain ⟨p, hp, hl⟩ := List.mem_flatMap.1 h
  obtain ⟨member, hmem, rfl⟩ := List.mem_map.1 hl
  have hstep : .whenMlag member.switch false [.configureMlag (member.params p.iplChannel)] ∈ t.configureMlag :=
    List.mem_flatMap.2 ⟨p, hp, List.mem_append_left _ (List.mem_map.2 ⟨member, hmem, rfl⟩)⟩
  have hmem : .whenMlag member.switch false [.configureMlag (member.params p.iplChannel)] ∈ t.configure := by
    rw [configure]
    exact List.mem_append_left _ (List.mem_append_right _ hstep)
  exact Pass.mlag_of_whenMlag hmem (fun u => quiet_configure) m

end Topology

end SwitchFabric
