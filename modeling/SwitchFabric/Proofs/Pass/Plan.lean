import SwitchFabric.Pass.Basic

/-!
# Passes as plans

What a pass does next depends on the answers it has had. A plan is the tree of this: each node is a call of a
driver or a question to the operator, with the rest of the pass for every answer. A list of steps has a plan
(`Pass.plan`), and doing the steps is running their plan (`Pass.steps_eq_run`), so that what holds of every
run needs one induction, on plans.

* `events`: what happens in a run, in order and with all answers; `happens_events`: these events lead from
  the state before the run to the state after it;
* `run_andThen`, `events_andThen`: a run of one plan after another;
* `outcome_cases`, `eq_nil_of_error`: an event that fails is the last of its run, and is why the run fails.
-/

namespace SwitchFabric

/-- What a pass does, call by call, with the rest of it for each answer. -/
inductive Plan where
  | done
  | act (switch : String) (action : Action) (next : Plan)
  | query (switch : String) (next : Bool → Plan)
  | ask (question : String) (next : Bool → Plan)

/-- What happens in the course of a pass: an action on a switch, the question to a switch whether MLAG is
configured, or a question to the operator. -/
inductive Event where
  | act (switch : String) (action : Action) (outcome : Except SwitchError Unit)
  | query (switch : String) (answer : Except SwitchError Bool)
  | ask (question : String) (answer : Except PromptError Bool)

/-- The failure that an event ends a pass with. -/
def Event.error? : Event → Option PassError
  | act switch _ (.error e) => some (.switch switch e)
  | query switch (.error e) => some (.switch switch e)
  | ask _ (.error e) => some (.prompt e)
  | act _ _ (.ok _) | query _ (.ok _) | ask _ (.ok _) => none

namespace Plan

/-- Actions on one switch, and a plan after them. -/
def actions (switch : String) (as : List Action) (k : Plan) : Plan := as.foldr (act switch) k

theorem actions_nil (switch : String) (k : Plan) : actions switch [] k = k := rfl

theorem actions_cons (switch : String) (a : Action) (as : List Action) (k : Plan) :
    actions switch (a :: as) k = act switch a (actions switch as k) := rfl

/-- A plan, and another one where it is done. -/
def andThen : Plan → Plan → Plan
  | done, k => k
  | act switch a p, k => act switch a (p.andThen k)
  | query switch p, k => query switch fun answer => (p answer).andThen k
  | ask question p, k => ask question fun answer => (p answer).andThen k

theorem actions_andThen (switch : String) (as : List Action) (p k : Plan) :
    (actions switch as p).andThen k = actions switch as (p.andThen k) := by
  induction as with
  | nil => rfl
  | cons a as ih => rw [actions_cons, actions_cons, andThen, ih]

end Plan

/-- A step, and a plan after it. -/
def Step.plan : Step → Plan → Plan
  | act switch a, k => .act switch a k
  | whenMlag switch configured as, k =>
    .query switch fun answer => if answer == configured then Plan.actions switch as k else k
  | withConsent switch question as, k =>
    .query switch fun configured =>
      if configured then
        .ask question fun consent => if consent then Plan.actions switch as k else k
      else k

/-- The plan of a list of steps. -/
def Pass.plan (ts : List Step) : Plan := ts.foldr Step.plan .done

theorem Step.plan_andThen (t : Step) (p k : Plan) : (t.plan p).andThen k = t.plan (p.andThen k) := by
  cases t with
  | act switch a => rfl
  | whenMlag switch configured as =>
    simp only [plan, Plan.andThen, Plan.query.injEq, true_and]
    funext answer
    split
    · rw [Plan.actions_andThen]
    · rfl
  | withConsent switch question as =>
    simp only [plan, Plan.andThen, Plan.query.injEq, true_and]
    funext configured
    cases configured with
    | false => rfl
    | true =>
      simp only [ite_true, Plan.andThen, Plan.ask.injEq, true_and]
      funext consent
      split
      · rw [Plan.actions_andThen]
      · rfl

namespace Pass

theorem plan_nil : plan [] = .done := rfl

theorem plan_cons (t : Step) (ts : List Step) : plan (t :: ts) = t.plan (plan ts) := rfl

theorem plan_cons_andThen (t : Step) (ts : List Step) : plan (t :: ts) = (t.plan .done).andThen (plan ts) := by
  rw [plan_cons, Step.plan_andThen]
  rfl

theorem plan_append (ts us : List Step) : plan (ts ++ us) = (plan ts).andThen (plan us) := by
  induction ts with
  | nil => rfl
  | cons t ts ih => rw [List.cons_append, plan_cons, plan_cons, Step.plan_andThen, ih]

end Pass

/-! ## Runs -/

namespace Plan

variable {σ π : Type} (f : Fleet σ) (o : Operator π)

/-- Run a plan up to the first call or question that fails. -/
def run : Plan → PassState σ π → Except PassError Unit × PassState σ π
  | done, s => (.ok (), s)
  | act switch a k, s =>
    match f.act switch a s.fleet with
    | (.ok (), fleet) => k.run { s with fleet := fleet }
    | (.error e, fleet) => (.error (.switch switch e), { s with fleet := fleet })
  | query switch k, s =>
    match f.isMlagConfigured switch s.fleet with
    | (.ok answer, fleet) => (k answer).run { s with fleet := fleet }
    | (.error e, fleet) => (.error (.switch switch e), { s with fleet := fleet })
  | ask question k, s =>
    match o.confirm question s.operator with
    | (.ok answer, operator) => (k answer).run { s with operator := operator }
    | (.error e, operator) => (.error (.prompt e), { s with operator := operator })

/-- What happens in the run of a plan. -/
def events : Plan → PassState σ π → List Event
  | done, _ => []
  | act switch a k, s =>
    .act switch a (f.act switch a s.fleet).1 ::
      match f.act switch a s.fleet with
      | (.ok (), fleet) => k.events { s with fleet := fleet }
      | (.error _, _) => []
  | query switch k, s =>
    .query switch (f.isMlagConfigured switch s.fleet).1 ::
      match f.isMlagConfigured switch s.fleet with
      | (.ok answer, fleet) => (k answer).events { s with fleet := fleet }
      | (.error _, _) => []
  | ask question k, s =>
    .ask question (o.confirm question s.operator).1 ::
      match o.confirm question s.operator with
      | (.ok answer, operator) => (k answer).events { s with operator := operator }
      | (.error _, _) => []

/-- Events that lead from one state to another: each is the answer that the driver or the operator gives in
the state that the events before it lead to. -/
inductive Happens : PassState σ π → List Event → PassState σ π → Prop where
  | nil (s : PassState σ π) : Happens s [] s
  | act {s s' : PassState σ π} {es : List Event} (switch : String) (a : Action) :
    Happens { s with fleet := (f.act switch a s.fleet).2 } es s' →
    Happens s (.act switch a (f.act switch a s.fleet).1 :: es) s'
  | query {s s' : PassState σ π} {es : List Event} (switch : String) :
    Happens { s with fleet := (f.isMlagConfigured switch s.fleet).2 } es s' →
    Happens s (.query switch (f.isMlagConfigured switch s.fleet).1 :: es) s'
  | ask {s s' : PassState σ π} {es : List Event} (question : String) :
    Happens { s with operator := (o.confirm question s.operator).2 } es s' →
    Happens s (.ask question (o.confirm question s.operator).1 :: es) s'

variable {f o} in
/-- Events lead from one state to another over some state between any two of them. -/
theorem Happens.of_append {s s' : PassState σ π} {es fs : List Event} (h : Happens f o s (es ++ fs) s') :
    ∃ between, Happens f o s es between ∧ Happens f o between fs s' := by
  induction es generalizing s with
  | nil => exact ⟨s, .nil s, h⟩
  | cons e es ih =>
    cases h with
    | act switch a h =>
      obtain ⟨between, hes, hfs⟩ := ih h
      exact ⟨between, .act switch a hes, hfs⟩
    | query switch h =>
      obtain ⟨between, hes, hfs⟩ := ih h
      exact ⟨between, .query switch hes, hfs⟩
    | ask question h =>
      obtain ⟨between, hes, hfs⟩ := ih h
      exact ⟨between, .ask question hes, hfs⟩

/-- The events of a run lead to the state it ends in. -/
theorem happens_events (p : Plan) (s : PassState σ π) :
    Happens f o s (p.events f o s) (p.run f o s).2 := by
  induction p generalizing s with
  | done => exact .nil s
  | act switch a k ih =>
    rw [events, run]
    refine .act switch a ?_
    rcases f.act switch a s.fleet with ⟨_ | _, fleet⟩
    · exact .nil _
    · exact ih _
  | query switch k ih =>
    rw [events, run]
    refine .query switch ?_
    rcases f.isMlagConfigured switch s.fleet with ⟨_ | answer, fleet⟩
    · exact .nil _
    · exact ih answer _
  | ask question k ih =>
    rw [events, run]
    refine .ask question ?_
    rcases o.confirm question s.operator with ⟨_ | answer, operator⟩
    · exact .nil _
    · exact ih answer _

/-- What every call of a driver keeps of the state of the switches, a run keeps. -/
theorem run_keeps {P : σ → Prop} (hact : ∀ switch a s, P s → P (f.act switch a s).2)
    (hquery : ∀ switch s, P s → P (f.isMlagConfigured switch s).2) (p : Plan) {s : PassState σ π}
    (h : P s.fleet) : P (p.run f o s).2.fleet := by
  induction p generalizing s with
  | done => exact h
  | act switch a k ih =>
    have hs := hact switch a s.fleet h
    rw [run]
    rcases hx : f.act switch a s.fleet with ⟨_ | _, fleet⟩ <;> rw [hx] at hs
    · exact hs
    · exact ih hs
  | query switch k ih =>
    have hs := hquery switch s.fleet h
    rw [run]
    rcases hx : f.isMlagConfigured switch s.fleet with ⟨_ | answer, fleet⟩ <;> rw [hx] at hs
    · exact hs
    · exact ih answer hs
  | ask question k ih =>
    rw [run]
    rcases o.confirm question s.operator with ⟨_ | answer, operator⟩
    · exact h
    · exact ih answer h

/-! ## One plan after another -/

theorem run_andThen (p k : Plan) (s : PassState σ π) :
    (p.andThen k).run f o s =
      match p.run f o s with
      | (.ok (), s) => k.run f o s
      | (.error e, s) => (.error e, s) := by
  induction p generalizing s with
  | done => rfl
  | act switch a p ih =>
    rw [andThen, run, run]
    rcases f.act switch a s.fleet with ⟨_ | _, fleet⟩
    · rfl
    · exact ih _
  | query switch p ih =>
    rw [andThen, run, run]
    rcases f.isMlagConfigured switch s.fleet with ⟨_ | answer, fleet⟩
    · rfl
    · exact ih answer _
  | ask question p ih =>
    rw [andThen, run, run]
    rcases o.confirm question s.operator with ⟨_ | answer, operator⟩
    · rfl
    · exact ih answer _

theorem events_andThen (p k : Plan) (s : PassState σ π) :
    (p.andThen k).events f o s = p.events f o s ++
      match p.run f o s with
      | (.ok (), s) => k.events f o s
      | (.error _, _) => [] := by
  induction p generalizing s with
  | done => rfl
  | act switch a p ih =>
    rw [andThen, events, events, run, List.cons_append]
    refine congrArg (_ :: ·) ?_
    rcases f.act switch a s.fleet with ⟨_ | _, fleet⟩
    · rfl
    · exact ih _
  | query switch p ih =>
    rw [andThen, events, events, run, List.cons_append]
    refine congrArg (_ :: ·) ?_
    rcases f.isMlagConfigured switch s.fleet with ⟨_ | answer, fleet⟩
    · rfl
    · exact ih answer _
  | ask question p ih =>
    rw [andThen, events, events, run, List.cons_append]
    refine congrArg (_ :: ·) ?_
    rcases o.confirm question s.operator with ⟨_ | answer, operator⟩
    · rfl
    · exact ih answer _

/-! ## Failures -/

/-- How a run ends: with all events well, or at one that failed and for its reason. -/
theorem outcome_cases (p : Plan) (s : PassState σ π) :
    ∃ es, (∀ e ∈ es, e.error? = none) ∧
      ((p.run f o s).1 = .ok () ∧ p.events f o s = es ∨
        ∃ e why, e.error? = some why ∧ (p.run f o s).1 = .error why ∧ p.events f o s = es ++ [e]) := by
  induction p generalizing s with
  | done => exact ⟨[], by simp, .inl ⟨rfl, rfl⟩⟩
  | act switch a k ih =>
    rw [run, events]
    rcases f.act switch a s.fleet with ⟨e | _, fleet⟩
    · exact ⟨[], by simp, .inr ⟨_, _, rfl, rfl, rfl⟩⟩
    · obtain ⟨es, hes, h⟩ := ih { s with fleet := fleet }
      refine ⟨.act switch a (.ok ()) :: es, by simpa [Event.error?] using hes, ?_⟩
      exact h.imp (And.imp_right (congrArg _)) fun ⟨e, why, he, hw, h⟩ => ⟨e, why, he, hw, congrArg _ h⟩
  | query switch k ih =>
    rw [run, events]
    rcases f.isMlagConfigured switch s.fleet with ⟨e | answer, fleet⟩
    · exact ⟨[], by simp, .inr ⟨_, _, rfl, rfl, rfl⟩⟩
    · obtain ⟨es, hes, h⟩ := ih answer { s with fleet := fleet }
      refine ⟨.query switch (.ok answer) :: es, by simpa [Event.error?] using hes, ?_⟩
      exact h.imp (And.imp_right (congrArg _)) fun ⟨e, why, he, hw, h⟩ => ⟨e, why, he, hw, congrArg _ h⟩
  | ask question k ih =>
    rw [run, events]
    rcases o.confirm question s.operator with ⟨e | answer, operator⟩
    · exact ⟨[], by simp, .inr ⟨_, _, rfl, rfl, rfl⟩⟩
    · obtain ⟨es, hes, h⟩ := ih answer { s with operator := operator }
      refine ⟨.ask question (.ok answer) :: es, by simpa [Event.error?] using hes, ?_⟩
      exact h.imp (And.imp_right (congrArg _)) fun ⟨e, why, he, hw, h⟩ => ⟨e, why, he, hw, congrArg _ h⟩

/-- An event that failed is the last of its run, and the run fails for its reason. -/
theorem eq_nil_of_error {p : Plan} {s : PassState σ π} {es es' : List Event} {e : Event} {why : PassError}
    (h : p.events f o s = es ++ e :: es') (he : e.error? = some why) :
    es' = [] ∧ (p.run f o s).1 = .error why := by
  obtain ⟨fs, hfs, ⟨-, h'⟩ | ⟨e', why', he', hrun, h'⟩⟩ := outcome_cases f o p s
  · have hmem : e ∈ fs := by rw [← h', h]; simp
    rw [hfs e hmem] at he
    cases he
  · rw [h'] at h
    rcases List.eq_nil_or_concat es' with rfl | ⟨es'', x, rfl⟩
    · obtain ⟨-, rfl⟩ := List.append_inj' h rfl |>.imp_right (List.cons.inj · |>.1)
      rw [he'] at he
      cases he
      exact ⟨rfl, hrun⟩
    · have h'' : fs ++ [e'] = es ++ e :: es'' ++ [x] := by simpa using h
      have hfs' : fs = es ++ e :: es'' := (List.append_inj' h'' rfl).1
      rw [hfs e (by rw [hfs']; simp)] at he
      cases he

end Plan

/-! ## Steps -/

namespace Pass

variable {σ π : Type} (f : Fleet σ) (o : Operator π)

theorem run_actions (switch : String) (as : List Action) (k : Plan) (s : PassState σ π) :
    (Plan.actions switch as k).run f o s =
      match actions f switch as s.fleet with
      | (.ok (), fleet) => k.run f o { s with fleet := fleet }
      | (.error e, fleet) => (.error e, { s with fleet := fleet }) := by
  induction as generalizing s with
  | nil => rfl
  | cons a as ih =>
    rw [Plan.actions_cons, Plan.run, actions]
    rcases f.act switch a s.fleet with ⟨_ | _, fleet⟩
    · rfl
    · exact ih _

theorem run_plan_step (t : Step) (k : Plan) (s : PassState σ π) :
    (t.plan k).run f o s =
      match step f o t s with
      | (.ok (), s) => k.run f o s
      | (.error e, s) => (.error e, s) := by
  cases t with
  | act switch a =>
    rw [Step.plan, ← Plan.actions_nil switch k, ← Plan.actions_cons, run_actions, step]
    rcases actions f switch [a] s.fleet with ⟨_ | _, fleet⟩ <;> rfl
  | whenMlag switch configured as =>
    rw [Step.plan, Plan.run, step]
    rcases f.isMlagConfigured switch s.fleet with ⟨_ | answer, fleet⟩
    · rfl
    · dsimp only
      split
      · rw [run_actions]
        dsimp only
        rcases actions f switch as fleet with ⟨_ | _, fleet⟩ <;> rfl
      · rfl
  | withConsent switch question as =>
    rw [Step.plan, Plan.run, step]
    rcases f.isMlagConfigured switch s.fleet with ⟨_ | _ | _, fleet⟩
    · rfl
    · rfl
    · dsimp only [ite_true]
      rw [if_pos rfl, Plan.run]
      rcases o.confirm question s.operator with ⟨_ | _ | _, operator⟩
      · rfl
      · rfl
      · dsimp only
        rw [if_pos rfl, run_actions]
        dsimp only
        rcases actions f switch as fleet with ⟨_ | _, fleet⟩ <;> rfl

/-- Doing steps is running their plan. -/
theorem steps_eq_run (ts : List Step) (s : PassState σ π) : steps f o ts s = (plan ts).run f o s := by
  induction ts generalizing s with
  | nil => rfl
  | cons t ts ih =>
    rw [plan_cons, run_plan_step, steps]
    rcases step f o t s with ⟨_ | _, s⟩
    · rfl
    · exact ih s

/-- What happens in a pass over the switches of a topology: nothing if a driver is missing. -/
def events (t : Topology) (pass : List Step) (s : PassState σ π) : List Event :=
  match missingDriver f t.switches s.fleet with
  | some _ => []
  | none => (plan pass).events f o s

theorem missingDriver_eq_none_iff {switches : List String} {s : σ} :
    missingDriver f switches s = none ↔ ∀ label ∈ switches, f.hasDriver label s = true := by
  simp [missingDriver]

theorem run_of_missing {t : Topology} {s : PassState σ π} {label : String}
    (h : missingDriver f t.switches s.fleet = some label) (pass : List Step) :
    run f o t pass s = (.error (.missingDriver label), s) := by
  rw [run, h]

theorem run_of_covered {t : Topology} {s : PassState σ π} (h : missingDriver f t.switches s.fleet = none)
    (pass : List Step) : run f o t pass s = (plan pass).run f o s := by
  rw [run, h, ← steps_eq_run]

theorem events_of_missing {t : Topology} {s : PassState σ π} {label : String}
    (h : missingDriver f t.switches s.fleet = some label) (pass : List Step) :
    events f o t pass s = [] := by
  rw [events, h]

theorem events_of_covered {t : Topology} {s : PassState σ π}
    (h : missingDriver f t.switches s.fleet = none) (pass : List Step) :
    events f o t pass s = (plan pass).events f o s := by
  rw [events, h]

/-- What happens in a pass leads to the state it ends in. -/
theorem happens_events (t : Topology) (pass : List Step) (s : PassState σ π) :
    Plan.Happens f o s (events f o t pass s) (run f o t pass s).2 := by
  cases h : missingDriver f t.switches s.fleet with
  | some label => rw [events_of_missing f o h, run_of_missing f o h]; exact .nil s
  | none => rw [events_of_covered f o h, run_of_covered f o h]; exact Plan.happens_events f o _ s

/-- In a pass that ends well nothing fails. -/
theorem error?_of_ok {f : Fleet σ} {o : Operator π} {t : Topology} {pass : List Step} {s : PassState σ π}
    (hok : (run f o t pass s).1 = .ok ()) {e : Event} (he : e ∈ events f o t pass s) : e.error? = none := by
  cases h : missingDriver f t.switches s.fleet with
  | some label =>
    rw [events_of_missing f o h] at he
    cases he
  | none =>
    rw [run_of_covered f o h] at hok
    rw [events_of_covered f o h] at he
    obtain ⟨es, hes, ⟨-, h'⟩ | ⟨_, why, -, herror, -⟩⟩ := Plan.outcome_cases f o (plan pass) s
    · exact hes e (h' ▸ he)
    · rw [hok] at herror
      cases herror

end Pass

end SwitchFabric
