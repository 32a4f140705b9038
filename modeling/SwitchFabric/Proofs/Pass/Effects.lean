import Mathlib.Data.List.Basic
import SwitchFabric.Proofs.Pass.Steps

/-!
# What a pass does to one switch

An action has an effect on its switch if it succeeds, and none if it fails. A step that ends well does all of its
actions or, if it looks at MLAG first, perhaps none (`Step.Does`); steps that all end well do this one after the other
(`Pass.Does`). What a pass has done to a switch at any point is a start of such a list (`Pass.exists_does`), so that
what holds at every point of a pass can be shown on lists of actions.
-/

namespace SwitchFabric

/-- The action that an event has done on a switch, if it has done one. -/
def Event.effect? (label : String) : Event → Option Action
  | act switch a (.ok ()) => if switch = label then some a else none
  | act _ _ (.error _) | query _ _ | ask _ _ => none

/-- The actions that events have done on a switch. -/
def effects (label : String) (es : List Event) : List Action := es.filterMap (Event.effect? label)

theorem effects_append (label : String) (es fs : List Event) :
    effects label (es ++ fs) = effects label es ++ effects label fs := List.filterMap_append

theorem effects_cons (label : String) (e : Event) (es : List Event) :
    effects label (e :: es) = (e.effect? label).toList ++ effects label es := by
  rw [effects, List.filterMap_cons]
  cases e.effect? label <;> rfl

theorem Event.effect?_eq_some {label : String} {e : Event} {a : Action} (h : e.effect? label = some a) :
    e = .act label a (.ok ()) := by
  cases e with
  | act switch b outcome =>
    cases outcome with
    | error => cases h
    | ok =>
      obtain ⟨rfl, hsome⟩ := Option.ite_none_right_eq_some.1 h
      cases hsome
      rfl
  | query | ask => cases h

/-- The actions done on a switch come apart where the events do. -/
theorem exists_of_effects {label : String} {es : List Event} {as bs : List Action} {a : Action}
    (h : effects label es = as ++ a :: bs) :
    ∃ before after, es = before ++ .act label a (.ok ()) :: after ∧ effects label before = as := by
  obtain ⟨es₁, es₂, rfl, hfirst, hrest⟩ := List.filterMap_eq_append_iff.1 h
  obtain ⟨es₃, e, after, rfl, hnone, hsome, -⟩ := List.filterMap_eq_cons_iff.1 hrest
  obtain rfl := Event.effect?_eq_some hsome
  refine ⟨es₁ ++ es₃, after, (List.append_assoc ..).symm, ?_⟩
  have hskip : effects label es₃ = [] := List.filterMap_eq_nil_iff.2 hnone
  rw [effects_append, hskip, List.append_nil]
  exact hfirst

/-- The actions, if they are done on a certain switch. -/
def actionsAt (label switch : String) (as : List Action) : List Action := if switch = label then as else []

/-- The plain action of a step on a switch. -/
def Step.actionAt? (label : String) : Step → Option Action
  | act switch a => if switch = label then some a else none
  | whenMlag _ _ _ | withConsent _ _ _ => none

/-- What a step does on a switch if it ends well. -/
inductive Step.Does (label : String) : Step → List Action → Prop where
  | act (switch : String) (a : Action) : Does label (.act switch a) (actionsAt label switch [a])
  | whenMlag (switch : String) (configured : Bool) (as : List Action) :
    Does label (.whenMlag switch configured as) (actionsAt label switch as)
  | withConsent (switch question : String) (as : List Action) :
    Does label (.withConsent switch question as) (actionsAt label switch as)
  | whenMlag_skip (switch : String) (configured : Bool) (as : List Action) :
    Does label (.whenMlag switch configured as) []
  | withConsent_skip (switch question : String) (as : List Action) :
    Does label (.withConsent switch question as) []

/-- What steps do on a switch if they all end well. -/
inductive Pass.Does (label : String) : List Step → List Action → Prop where
  | nil : Does label [] []
  | cons {t : Step} {ts : List Step} {as bs : List Action} :
    t.Does label as → Does label ts bs → Does label (t :: ts) (as ++ bs)

namespace Pass

variable {label : String} {ts us : List Step} {as : List Action}

theorem Does.of_append (h : Does label (ts ++ us) as) :
    ∃ bs cs, as = bs ++ cs ∧ Does label ts bs ∧ Does label us cs := by
  induction ts generalizing as with
  | nil => exact ⟨[], as, rfl, .nil, h⟩
  | cons t ts ih =>
    cases h with
    | cons ht h =>
      obtain ⟨bs, cs, rfl, hts, hus⟩ := ih h
      exact ⟨_, cs, (List.append_assoc ..).symm, .cons ht hts, hus⟩

/-- What is done on a switch is an action of one of the switch's steps. -/
theorem Does.exists_step (h : Does label ts as) {a : Action} (ha : a ∈ as) :
    ∃ t ∈ ts, t.switch = label ∧ a ∈ t.actions := by
  have hat : ∀ {switch : String} {bs : List Action}, a ∈ actionsAt label switch bs →
      switch = label ∧ a ∈ bs := by
    intro switch bs h
    unfold actionsAt at h
    split at h
    · next hs => exact ⟨hs, h⟩
    · cases h
  induction h with
  | nil => cases ha
  | @cons t ts bs cs ht hts ih =>
    rcases List.mem_append.1 ha with ha | ha
    · refine ⟨t, List.mem_cons_self, ?_⟩
      cases ht with
      | act switch b | whenMlag switch _ _ | withConsent switch _ _ => exact hat ha
      | whenMlag_skip | withConsent_skip => cases ha
    · obtain ⟨u, hu, hrest⟩ := ih ha
      exact ⟨u, List.mem_cons_of_mem _ hu, hrest⟩

/-- A plain action of a step is done. -/
theorem Does.mem_of_act (h : Does label ts as) {a : Action} (ha : .act label a ∈ ts) : a ∈ as := by
  induction h with
  | nil => cases ha
  | @cons t ts bs cs ht hts ih =>
    rcases List.mem_cons.1 ha with rfl | ha
    · cases ht
      simp [actionsAt]
    · exact List.mem_append_right _ (ih ha)

/-- Plain actions are all done, in their order. -/
theorem Does.eq_of_acts (h : Does label ts as) (hts : ∀ u ∈ ts, ∃ switch a, u = .act switch a) :
    as = ts.filterMap (Step.actionAt? label) := by
  induction h with
  | nil => rfl
  | @cons t ts bs cs ht _ ih =>
    obtain ⟨switch, a, rfl⟩ := hts t List.mem_cons_self
    cases ht
    rw [ih fun u hu => hts u (List.mem_cons_of_mem _ hu), List.filterMap_cons, Step.actionAt?, actionsAt]
    split <;> rfl

/-- Plain actions on one switch after another are done as they are. -/
theorem Does.eq_flatMap {α : Type} {l : List α} {switch : α → String} {actions : α → List Action}
    (h : Does label (l.flatMap fun x => (actions x).map (.act (switch x))) as) :
    as = l.flatMap fun x => actionsAt label (switch x) (actions x) := by
  refine (h.eq_of_acts fun u hu => ?_).trans ?_
  · obtain ⟨x, -, hu⟩ := List.mem_flatMap.1 hu
    obtain ⟨a, -, rfl⟩ := List.mem_map.1 hu
    exact ⟨switch x, a, rfl⟩
  · rw [List.filterMap_flatMap]
    refine List.flatMap_congr fun x _ => ?_
    rw [List.filterMap_map, actionsAt]
    by_cases hx : switch x = label <;> simp [Function.comp_def, Step.actionAt?, hx]

theorem does_all (label : String) (ts : List Step) : ∃ as, Does label ts as := by
  induction ts with
  | nil => exact ⟨[], .nil⟩
  | cons t ts ih =>
    obtain ⟨as, has⟩ := ih
    cases t with
    | act switch a => exact ⟨_, .cons (.act switch a) has⟩
    | whenMlag switch configured bs => exact ⟨_, .cons (.whenMlag switch configured bs) has⟩
    | withConsent switch question bs => exact ⟨_, .cons (.withConsent switch question bs) has⟩

end Pass

/-! ## Runs -/

variable {σ π : Type} (f : Fleet σ) (o : Operator π) (label : String)

/-- Actions on a switch are done up to the first that fails. -/
theorem Plan.effects_actions (switch : String) (as : List Action) (s : PassState σ π) :
    let done := effects label ((actions switch as .done).events f o s)
    done <+: actionsAt label switch as ∧
      (((actions switch as .done).run f o s).1 = .ok () → done = actionsAt label switch as) := by
  induction as generalizing s with
  | nil => simp [actions_nil, events, effects, actionsAt]
  | cons a as ih =>
    rw [actions_cons, events, run, effects, List.filterMap_cons]
    rcases f.act switch a s.fleet with ⟨_ | _, fleet⟩
    · simp [Event.effect?]
    · obtain ⟨hstart, hall⟩ := ih { s with fleet := fleet }
      by_cases hs : switch = label
      · simp only [actionsAt, if_pos hs, effects] at hstart hall ⊢
        simp only [Event.effect?, if_pos hs]
        exact ⟨(List.cons_prefix_cons).2 ⟨rfl, hstart⟩, fun hok => congrArg _ (hall hok)⟩
      · simp only [actionsAt, if_neg hs, effects] at hstart hall ⊢
        simp only [Event.effect?, if_neg hs]
        exact ⟨hstart, hall⟩

/-- What one step has done to a switch. -/
theorem Step.exists_does (t : Step) (s : PassState σ π) :
    let done := effects label ((t.plan .done).events f o s)
    ∃ as, t.Does label as ∧ done <+: as ∧ (((t.plan .done).run f o s).1 = .ok () → done = as) := by
  cases t with
  | act switch a => exact ⟨_, .act switch a, Plan.effects_actions f o label switch [a] s⟩
  | whenMlag switch configured as =>
    rw [plan, Plan.events, Plan.run, effects, List.filterMap_cons]
    rcases f.isMlagConfigured switch s.fleet with ⟨_ | answer, fleet⟩
    · exact ⟨_, .whenMlag_skip switch configured as, by simp [Event.effect?]⟩
    · dsimp only [Event.effect?]
      split
      · exact ⟨_, .whenMlag switch configured as, Plan.effects_actions f o label switch as _⟩
      · exact ⟨_, .whenMlag_skip switch configured as, by simp [Plan.events]⟩
  | withConsent switch question as =>
    rw [plan, Plan.events, Plan.run, effects, List.filterMap_cons]
    rcases f.isMlagConfigured switch s.fleet with ⟨_ | _ | _, fleet⟩
    · exact ⟨_, .withConsent_skip switch question as, by simp [Event.effect?]⟩
    · exact ⟨_, .withConsent_skip switch question as, by simp [Event.effect?, Plan.events]⟩
    · dsimp only [Event.effect?]
      rw [if_pos rfl, Plan.events, Plan.run, List.filterMap_cons]
      rcases o.confirm question s.operator with ⟨_ | _ | _, operator⟩
      · exact ⟨_, .withConsent_skip switch question as, by simp [Event.effect?]⟩
      · exact ⟨_, .withConsent_skip switch question as, by simp [Event.effect?, Plan.events]⟩
      · dsimp only [Event.effect?]
        rw [if_pos rfl]
        exact ⟨_, .withConsent switch question as, Plan.effects_actions f o label switch as _⟩

namespace Pass

/-- What steps have done to a switch is a start of what they do if they all end well. -/
theorem exists_does (ts : List Step) (s : PassState σ π) :
    let done := effects label ((plan ts).events f o s)
    ∃ as, Does label ts as ∧ done <+: as ∧ (((plan ts).run f o s).1 = .ok () → done = as) := by
  induction ts generalizing s with
  | nil => exact ⟨[], .nil, by simp [plan_nil, Plan.events, effects]⟩
  | cons t ts ih =>
    obtain ⟨as, has, hstart, hall⟩ := t.exists_does f o label s
    rw [plan_cons_andThen, Plan.events_andThen, Plan.run_andThen, effects_append]
    rcases hrun : (t.plan .done).run f o s with ⟨_ | _, s'⟩
    · obtain ⟨bs, hbs⟩ := does_all label ts
      refine ⟨as ++ bs, .cons has hbs, ?_, by simp⟩
      rw [effects, effects, List.filterMap_nil, List.append_nil]
      exact hstart.trans (List.prefix_append as bs)
    · obtain ⟨bs, hbs, hstart', hall'⟩ := ih s'
      rw [hrun] at hall
      rw [hall rfl]
      refine ⟨as ++ bs, .cons has hbs, ?_, fun hok => congrArg _ (hall' hok)⟩
      exact (List.prefix_append_right_inj as).2 hstart'

/-- What a pass that ends well has done to a switch. -/
theorem does_of_ok {f : Fleet σ} {o : Operator π} {t : Topology} {pass : List Step} {s : PassState σ π}
    (hok : (run f o t pass s).1 = .ok ()) (label : String) : Does label pass (effects label (events f o t pass s)) := by
  cases h : missingDriver f t.switches s.fleet with
  | some missing =>
    rw [run_of_missing f o h] at hok
    cases hok
  | none =>
    rw [run_of_covered f o h] at hok
    obtain ⟨as, has, -, hall⟩ := exists_does f o label pass s
    rw [events_of_covered f o h, hall hok]
    exact has

end Pass

end SwitchFabric
