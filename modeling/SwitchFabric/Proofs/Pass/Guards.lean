import Mathlib.Data.List.Basic
import SwitchFabric.Proofs.Pass.Steps
import SwitchFabric.Proofs.Traversal

/-!
# Actions on MLAG are guarded

MLAG is to be configured on a switch that has none, and enabled or taken down on one that has it. Both passes ask the
switch before they do so: the last call on the switch was the question, and its answer was what the action needs
(`Guarded`). This holds of every step on its own (`Step.guarded_events`), and of events one after the other
(`Guarded.append`), so it holds of passes over any topologies, with any drivers (`guarded_configure`,
`guarded_deconfigure`).
-/

namespace SwitchFabric

/-- Whether MLAG is to be configured on the switch of an action, if the action needs to know. -/
def Action.mlagNeeded? : Action → Option Bool
  | configureMlag _ => some false
  | enableMlag | deconfigureMlag => some true
  | _ => none

theorem Action.mlagNeeded?_of_isMlag {a : Action} (h : a.isMlag = false) : a.mlagNeeded? = none := by
  cases a with
  | configureMlag | enableMlag | deconfigureMlag => cases h
  | _ => rfl

namespace Event

/-- The switch that is called. -/
def callee? : Event → Option String
  | act switch _ _ | query switch _ => some switch
  | ask _ _ => none

/-- The same for an event; only actions need to know. -/
def mlagNeeded? : Event → Option Bool
  | act _ a _ => a.mlagNeeded?
  | query _ _ | ask _ _ => none

end Event

/-- The last call on a switch. -/
def lastCall? (label : String) (es : List Event) : Option Event :=
  (es.filter fun e => e.callee? = some label).getLast?

theorem lastCall?_append (label : String) (es fs : List Event) :
    lastCall? label (es ++ fs) = (lastCall? label fs).or (lastCall? label es) := by
  rw [lastCall?, List.filter_append, List.getLast?_append]
  rfl

theorem lastCall?_query (label : String) (answer : Except SwitchError Bool) :
    lastCall? label [.query label answer] = some (.query label answer) := by
  simp [lastCall?, Event.callee?]

theorem lastCall?_ask (label question : String) (es : List Event) (answer : Except PromptError Bool) :
    lastCall? label (es ++ [.ask question answer]) = lastCall? label es := by
  rw [lastCall?_append]
  rfl

/-- Nothing was called on the switch since its last call. -/
theorem exists_of_lastCall? {label : String} {es : List Event} {e : Event} (h : lastCall? label es = some e) :
    ∃ before after, es = before ++ e :: after ∧ ∀ e' ∈ after, e'.callee? ≠ some label := by
  obtain ⟨init, hfilter⟩ := List.getLast?_eq_some_iff.1 h
  obtain ⟨before, rest, rfl, -, hrest⟩ := List.filter_eq_append_iff.1 hfilter
  obtain ⟨between, after, rfl, -, -, hafter⟩ := List.filter_eq_cons_iff.1 hrest
  refine ⟨before ++ between, after, (List.append_assoc ..).symm, fun e' he' => ?_⟩
  simpa using List.filter_eq_nil_iff.1 hafter e' he'

/-- An action that needs MLAG in some state comes after the switch has answered that MLAG is in this state, and
nothing else is called on the switch between the two. -/
def Guarded (es : List Event) : Prop :=
  ∀ before label a outcome after needed, es = before ++ .act label a outcome :: after →
    a.mlagNeeded? = some needed → lastCall? label before = some (.query label (.ok needed))

namespace Guarded

variable {es fs : List Event}

theorem of_free (h : ∀ e ∈ es, e.mlagNeeded? = none) : Guarded es := by
  rintro before label a outcome after needed rfl hneeded
  have hnone := h (.act label a outcome) (by simp)
  rw [Event.mlagNeeded?, hneeded] at hnone
  cases hnone

theorem nil : Guarded [] := of_free (by simp)

theorem append (h : Guarded es) (h' : Guarded fs) : Guarded (es ++ fs) := by
  intro before label a outcome after needed heq hneeded
  obtain ⟨rest, rfl, -⟩ | ⟨front, rfl, hfs⟩ := split_append heq
  · exact h before label a outcome rest needed rfl hneeded
  · rw [lastCall?_append, h' front label a outcome after needed hfs hneeded]
    rfl

/-- One more action, if the last call on the switch was answered as it needs. -/
theorem concat {label : String} {a : Action} {needed : Bool} (h : Guarded es)
    (hlast : lastCall? label es = some (.query label (.ok needed))) (hneeded : a.mlagNeeded? = some needed)
    (outcome : Except SwitchError Unit) : Guarded (es ++ [.act label a outcome]) := by
  intro before label' a' outcome' after needed' heq hneeded'
  rcases List.eq_nil_or_concat after with rfl | ⟨after, e, rfl⟩
  · obtain ⟨rfl, hact⟩ := List.append_inj' heq rfl
    cases hact
    rw [hneeded] at hneeded'
    cases hneeded'
    exact hlast
  · have heq' : es ++ [.act label a outcome] = (before ++ .act label' a' outcome' :: after) ++ [e] := by
      rw [heq]
      simp
    exact h before label' a' outcome' after needed' (List.append_inj' heq' rfl).1 hneeded'

end Guarded

/-! ## Steps -/

/-- The steps that ask before they act on MLAG. -/
inductive Step.AsksFirst : Step → Prop where
  | act (switch : String) {a : Action} : a.mlagNeeded? = none → AsksFirst (.act switch a)
  | whenMlag_free (switch : String) (configured : Bool) {as : List Action} :
    (∀ a ∈ as, a.mlagNeeded? = none) → AsksFirst (.whenMlag switch configured as)
  | whenMlag (switch : String) {configured : Bool} {a : Action} :
    a.mlagNeeded? = some configured → AsksFirst (.whenMlag switch configured [a])
  | withConsent (switch question : String) {a : Action} :
    a.mlagNeeded? = some true → AsksFirst (.withConsent switch question [a])

variable {σ π : Type} (f : Fleet σ) (o : Operator π)

/-- What happens with one action is the action, whatever its outcome. -/
theorem Plan.events_act_done (switch : String) (a : Action) (s : PassState σ π) :
    (actions switch [a] .done).events f o s = [.act switch a (f.act switch a s.fleet).1] := by
  rw [actions_cons, actions_nil, events]
  rcases f.act switch a s.fleet with ⟨_ | _, fleet⟩ <;> rfl

/-- One step is guarded, by cases on how far it comes. -/
theorem Step.guarded_events {t : Step} (h : t.AsksFirst) (s : PassState σ π) :
    Guarded ((t.plan .done).events f o s) := by
  have hquery (switch : String) (answer : Except SwitchError Bool) : Guarded [.query switch answer] :=
    .of_free (by simp [Event.mlagNeeded?])
  cases h with
  | @act switch a ha =>
    refine .of_free fun e he => ?_
    have he : e ∈ (Plan.actions switch [a] .done).events f o s := he
    rw [Plan.events_act_done] at he
    rw [List.mem_singleton.1 he]
    exact ha
  | @whenMlag_free switch configured as has =>
    refine .of_free fun e he => ?_
    rcases mem_events_plan f o he with hp | ⟨s', he⟩
    · cases hp with
      | act outcome ha => exact has _ ha
      | query | ask => rfl
    · cases he
  | @whenMlag switch configured a ha =>
    rw [plan, Plan.events]
    rcases f.isMlagConfigured switch s.fleet with ⟨_ | answer, fleet⟩
    · exact hquery switch _
    · dsimp only
      split
      · next heq =>
        rw [beq_iff_eq.1 heq, Plan.events_act_done]
        exact (hquery switch _).concat (lastCall?_query switch _) ha _
      · exact hquery switch _
  | @withConsent switch question a ha =>
    rw [plan, Plan.events]
    rcases f.isMlagConfigured switch s.fleet with ⟨_ | _ | _, fleet⟩
    · exact hquery switch _
    · exact hquery switch _
    · dsimp only
      rw [if_pos rfl, Plan.events]
      have hask (answer : Except PromptError Bool) : Guarded [.query switch (.ok true), .ask question answer] :=
        .of_free (by simp [Event.mlagNeeded?])
      rcases o.confirm question s.operator with ⟨_ | _ | _, operator⟩
      · exact hask _
      · exact hask _
      · dsimp only
        rw [if_pos rfl, Plan.events_act_done]
        refine (hask (.ok true)).concat ?_ ha _
        exact (lastCall?_ask switch question [.query switch (.ok true)] _).trans (lastCall?_query switch _)

/-- Steps that ask first are guarded, wherever they stop. -/
theorem Pass.guarded_events {ts : List Step} (h : ∀ t ∈ ts, t.AsksFirst) (s : PassState σ π) :
    Guarded ((plan ts).events f o s) := by
  induction ts generalizing s with
  | nil => exact .nil
  | cons t ts ih =>
    obtain ⟨ht, hts⟩ := List.forall_mem_cons.1 h
    rw [plan_cons_andThen, Plan.events_andThen]
    refine (t.guarded_events f o ht s).append ?_
    rcases (t.plan .done).run f o s with ⟨_ | _, s'⟩
    · exact .nil
    · exact ih hts s'

/-! ## Passes -/

namespace Topology

variable {t : Topology} {u : Step}

theorem asksFirst_of_mem_configure (h : u ∈ t.configure) : u.AsksFirst := by
  cases configures_of_mem h with
  | act switch ha => exact .act switch (Action.mlagNeeded?_of_isMlag ha)
  | configureMlag => exact .whenMlag _ rfl
  | enableMlag => exact .whenMlag _ rfl

theorem asksFirst_of_mem_deconfigure (h : u ∈ t.deconfigure) : u.AsksFirst := by
  rw [deconfigure, deconfigureMlag_eq, List.mem_append, List.mem_append, List.mem_append] at h
  rcases h with ((h | h) | h) | h
  · obtain ⟨g, -, switch, groups, -, hu⟩ := mem_deconfigureChannels h
    obtain ⟨channels, rfl⟩ | ⟨channel, rfl⟩ := mem_removeChannels hu
    · refine .whenMlag_free switch true fun a ha => ?_
      obtain ⟨channel, -, rfl⟩ := List.mem_map.1 ha
      rfl
    · exact .act switch rfl
  · obtain ⟨label, -, rfl⟩ := List.mem_map.1 h
    exact .withConsent label _ rfl
  · obtain ⟨switch, ports, port, vlans, -, -, ⟨v, -, rfl⟩ | rfl | ⟨v, -, rfl⟩⟩ := mem_deconfigureVlans.1 h <;>
      exact .act switch rfl
  · obtain ⟨switch, mtus, mtu, ports, -, -, port, -, rfl⟩ := mem_deconfigureMtus.1 h
    exact .act switch rfl

/-- A pass is guarded, wherever it stops. -/
theorem guarded_pass {pass : List Step} (hpass : pass ∈ [t.configure, t.deconfigure]) (s : PassState σ π) :
    Guarded (Pass.events f o t pass s) := by
  cases h : Pass.missingDriver f t.switches s.fleet with
  | some missing =>
    rw [Pass.events_of_missing f o h]
    exact .nil
  | none =>
    rw [Pass.events_of_covered f o h]
    refine Pass.guarded_events f o (fun u hu => ?_) s
    rcases List.mem_pair.1 hpass with rfl | rfl
    · exact asksFirst_of_mem_configure hu
    · exact asksFirst_of_mem_deconfigure hu

end Topology

end SwitchFabric
