import Mathlib.Data.List.Forall2
import SwitchFabric.Proofs.Pass.Steps
import SwitchFabric.Proofs.Traversal

/-!
# Steps that end well

A step that ends well has asked its switch, if it asks at all, and done all its actions if the answer was the one it
waits for (`Step.Completes`). Steps that all end well complete one after the other (`Pass.completes`).

Steps after others begin when these have ended well: an event that the first steps cannot bring about comes after all
that happens in them (`Pass.exists_rest`). Steps that are quiet fail for the reason of a switch only
(`Pass.exists_switch_error`).
-/

namespace SwitchFabric

/-- What happens in a step that ends well. -/
inductive Step.Completes : Step → List Event → Prop where
  | act (switch : String) (a : Action) : Completes (.act switch a) [.act switch a (.ok ())]
  | whenMlag (switch : String) (configured : Bool) (as : List Action) :
    Completes (.whenMlag switch configured as)
      (.query switch (.ok configured) :: as.map fun a => .act switch a (.ok ()))
  | whenMlag_skip (switch : String) (configured : Bool) (as : List Action) :
    Completes (.whenMlag switch configured as) [.query switch (.ok !configured)]
  | withConsent (switch question : String) (as : List Action) :
    Completes (.withConsent switch question as)
      (.query switch (.ok true) :: .ask question (.ok true) :: as.map fun a => .act switch a (.ok ()))
  | withConsent_declined (switch question : String) (as : List Action) :
    Completes (.withConsent switch question as) [.query switch (.ok true), .ask question (.ok false)]
  | withConsent_skip (switch question : String) (as : List Action) :
    Completes (.withConsent switch question as) [.query switch (.ok false)]

theorem Step.Completes.permits {t : Step} {es : List Event} (h : t.Completes es) {e : Event} (he : e ∈ es) :
    t.Permits e := by
  have hact {u : Step} {e : Event} (he : e ∈ u.actions.map fun a => Event.act u.switch a (.ok ())) : u.Permits e := by
    obtain ⟨a, ha, rfl⟩ := List.mem_map.1 he
    exact .act _ ha
  cases h with
  | act switch a => exact hact (u := .act switch a) he
  | whenMlag switch configured as =>
    rcases List.mem_cons.1 he with rfl | he
    · exact .query _
    · exact hact (u := .whenMlag switch configured as) he
  | whenMlag_skip switch configured as =>
    rw [List.mem_singleton.1 he]
    exact .query _
  | withConsent switch question as =>
    rcases List.mem_cons.1 he with rfl | he
    · exact .query _
    rcases List.mem_cons.1 he with rfl | he
    · exact .ask _ rfl
    · exact hact (u := .withConsent switch question as) he
  | withConsent_declined switch question as =>
    rcases List.mem_pair.1 he with rfl | rfl
    · exact .query _
    · exact .ask _ rfl
  | withConsent_skip switch question as =>
    rw [List.mem_singleton.1 he]
    exact .query _

/-- What happens in steps that all end well. -/
inductive Pass.Completes : List Step → List Event → Prop where
  | nil : Completes [] []
  | cons {t : Step} {ts : List Step} {es fs : List Event} :
    t.Completes es → Completes ts fs → Completes (t :: ts) (es ++ fs)

namespace Pass.Completes

variable {ts us : List Step} {es : List Event}

theorem of_append (h : Completes (ts ++ us) es) :
    ∃ fs gs, es = fs ++ gs ∧ Completes ts fs ∧ Completes us gs := by
  induction ts generalizing es with
  | nil => exact ⟨[], es, rfl, .nil, h⟩
  | cons t ts ih =>
    cases h with
    | cons ht h =>
      obtain ⟨fs, gs, rfl, hts, hus⟩ := ih h
      exact ⟨_, gs, (List.append_assoc ..).symm, .cons ht hts, hus⟩

/-- Whatever happens in steps that end well comes from one of them. -/
theorem permits (h : Completes ts es) {e : Event} (he : e ∈ es) : ∃ t ∈ ts, t.Permits e := by
  induction h with
  | nil => cases he
  | @cons t ts es fs ht _ ih =>
    rcases List.mem_append.1 he with he | he
    · exact ⟨t, List.mem_cons_self, ht.permits he⟩
    · obtain ⟨u, hu, hpermits⟩ := ih he
      exact ⟨u, List.mem_cons_of_mem _ hu, hpermits⟩

/-- The events of one of the steps are among those of all. -/
theorem exists_turn (h : Completes ts es) {t : Step} (ht : t ∈ ts) :
    ∃ turn, t.Completes turn ∧ ∀ e ∈ turn, e ∈ es := by
  induction h with
  | nil => cases ht
  | @cons u ts es fs hu _ ih =>
    rcases List.mem_cons.1 ht with rfl | ht
    · exact ⟨es, hu, fun e he => List.mem_append_left _ he⟩
    · obtain ⟨turn, hturn, hmem⟩ := ih ht
      exact ⟨turn, hturn, fun e he => List.mem_append_right _ (hmem e he)⟩

/-- The steps for some things happen thing by thing. -/
theorem exists_turns {α : Type} {xs : List α} {steps : α → List Step} {R : α → List Event → Prop}
    (h : Completes (xs.flatMap steps) es) (hR : ∀ x ∈ xs, ∀ turn, Completes (steps x) turn → R x turn) :
    ∃ turns, es = turns.flatten ∧ List.Forall₂ R xs turns := by
  induction xs generalizing es with
  | nil =>
    cases h
    exact ⟨[], rfl, .nil⟩
  | cons x xs ih =>
    rw [List.flatMap_cons] at h
    obtain ⟨hRx, hRxs⟩ := List.forall_mem_cons.1 hR
    obtain ⟨turn, gs, rfl, hx, hxs⟩ := h.of_append
    obtain ⟨turns, rfl, hturns⟩ := ih hxs hRxs
    exact ⟨turn :: turns, rfl, .cons (hRx turn hx) hturns⟩

theorem of_singleton {t : Step} (h : Completes [t] es) : t.Completes es := by
  cases h with
  | cons ht h =>
    cases h
    rwa [List.append_nil]

/-- Plain actions on a switch succeed one after the other. -/
theorem eq_of_acts {switch : String} {as : List Action} (h : Completes (as.map (.act switch)) es) :
    es = as.map fun a => .act switch a (.ok ()) := by
  induction as generalizing es with
  | nil =>
    cases h
    rfl
  | cons a as ih =>
    cases h with
    | cons ht h =>
      cases ht
      rw [ih h]
      rfl

end Pass.Completes

/-! ## Runs -/

variable {σ π : Type} {f : Fleet σ} {o : Operator π}

theorem Plan.events_actions_of_ok {switch : String} {as : List Action} {s : PassState σ π}
    (h : ((actions switch as .done).run f o s).1 = .ok ()) :
    (actions switch as .done).events f o s = as.map fun a => .act switch a (.ok ()) := by
  induction as generalizing s with
  | nil => rfl
  | cons a as ih =>
    rw [actions_cons, run] at h
    rw [actions_cons, events, List.map_cons]
    rcases hx : f.act switch a s.fleet with ⟨_ | _, fleet⟩ <;> rw [hx] at h
    · cases h
    · exact congrArg _ (ih h)

theorem Step.completes {t : Step} {s : PassState σ π} (h : ((t.plan .done).run f o s).1 = .ok ()) :
    t.Completes ((t.plan .done).events f o s) := by
  cases t with
  | act switch a =>
    have hevents : (Plan.actions switch [a] .done).events f o s = [.act switch a (.ok ())] :=
      Plan.events_actions_of_ok h
    exact hevents ▸ .act switch a
  | whenMlag switch configured as =>
    rw [plan, Plan.run] at h
    rw [plan, Plan.events]
    rcases hx : f.isMlagConfigured switch s.fleet with ⟨_ | answer, fleet⟩ <;> rw [hx] at h
    · cases h
    · dsimp only at h ⊢
      split at h
      · next heq =>
        rw [if_pos heq, Plan.events_actions_of_ok h, beq_iff_eq.1 heq]
        exact .whenMlag switch configured as
      · next hne =>
        obtain rfl : answer = !configured := Bool.eq_not.2 (by simpa using hne)
        rw [if_neg hne]
        exact .whenMlag_skip switch configured as
  | withConsent switch question as =>
    rw [plan, Plan.run] at h
    rw [plan, Plan.events]
    rcases hx : f.isMlagConfigured switch s.fleet with ⟨_ | _ | _, fleet⟩ <;> rw [hx] at h
    · cases h
    · exact .withConsent_skip switch question as
    · dsimp only at h ⊢
      rw [if_pos rfl, Plan.run] at h
      rw [if_pos rfl, Plan.events]
      rcases hy : o.confirm question s.operator with ⟨_ | _ | _, operator⟩ <;> rw [hy] at h
      · cases h
      · exact .withConsent_declined switch question as
      · dsimp only at h ⊢
        rw [if_pos rfl] at h ⊢
        rw [Plan.events_actions_of_ok h]
        exact .withConsent switch question as

namespace Pass

theorem completes {ts : List Step} {s : PassState σ π} (h : ((plan ts).run f o s).1 = .ok ()) :
    Completes ts ((plan ts).events f o s) := by
  induction ts generalizing s with
  | nil => exact .nil
  | cons t ts ih =>
    rw [plan_cons_andThen, Plan.run_andThen] at h
    rw [plan_cons_andThen, Plan.events_andThen]
    rcases hrun : (t.plan .done).run f o s with ⟨_ | _, s'⟩ <;> rw [hrun] at h
    · cases h
    · exact .cons (Step.completes (by rw [hrun])) (ih h)

/-- A pass that ends well completes its steps. -/
theorem completes_of_ok {t : Topology} {pass : List Step} {s : PassState σ π} (hok : (run f o t pass s).1 = .ok ()) :
    Completes pass (events f o t pass s) := by
  cases h : missingDriver f t.switches s.fleet with
  | some missing =>
    rw [run_of_missing f o h] at hok
    cases hok
  | none =>
    rw [run_of_covered f o h] at hok
    rw [events_of_covered f o h]
    exact completes hok

/-- An event that some steps cannot bring about comes after all that happens in them, and they have ended well. -/
theorem exists_rest {ts us : List Step} {s : PassState σ π} {before after : List Event} {e : Event}
    (h : (plan (ts ++ us)).events f o s = before ++ e :: after) (hts : ∀ t ∈ ts, ¬ t.Permits e) :
    ((plan ts).run f o s).1 = .ok () ∧ ∃ rest, before = (plan ts).events f o s ++ rest := by
  have hfirst : e ∉ (plan ts).events f o s := fun he => by
    obtain ⟨t, ht, hp⟩ := permits_of_mem_events f o he
    exact hts t ht hp
  rw [plan_append, Plan.events_andThen] at h
  rcases hrun : (plan ts).run f o s with ⟨_ | _, s'⟩ <;> rw [hrun] at h
  · rw [List.append_nil] at h
    exact absurd (by rw [h]; simp) hfirst
  · obtain ⟨rest, hrest, -⟩ := split_append_right hfirst h
    exact ⟨rfl, rest, hrest⟩

/-- Steps that ask the operator nothing fail for the reason of a switch. -/
theorem exists_switch_error {ts : List Step} (hts : ∀ t ∈ ts, t.Quiet) {s : PassState σ π} {why : PassError}
    (h : ((plan ts).run f o s).1 = .error why) : ∃ label e, why = .switch label e := by
  obtain ⟨es, -, ⟨hok, -⟩ | ⟨e, why', he, hrun, hevents⟩⟩ := Plan.outcome_cases f o (plan ts) s
  · rw [hok] at h
    cases h
  · obtain rfl := Except.error.inj (h.symm.trans hrun)
    obtain ⟨t, ht, hpermits⟩ := permits_of_mem_events f o (hevents ▸ List.mem_append_right es (List.mem_singleton_self e))
    cases hpermits with
    | act outcome _ | query outcome =>
      cases outcome <;> cases he
      exact ⟨_, _, rfl⟩
    | ask _ hq =>
      rw [(hts t ht).1] at hq
      cases hq

end Pass

end SwitchFabric
