import SwitchFabric.Cluster.Builder
import SwitchFabric.Proofs.Pass.Steps
import SwitchFabric.Proofs.Recording.Planned
import SwitchFabric.Proofs.Traversal

/-!
# MLAG is taken down only with consent

When a fabric is deconfigured, the members of the MLAG pairs have their turns one after another. `Turn` lists
what can happen in a turn, and `Turns` in the turns of some members. `exists_turns` finds these turns in
every run, by induction on the members; `exists_phases` places them between the removal of the port channels
and the removal of VLANs and MTUs, where the operator is not asked and MLAG is not taken down.

`ConsentKept` says what this means for the events of a whole pass. `deconfigure_keeps_consent` shows it for all
drivers and all operators, and that on recording switches the operator's answers make no difference but for the
calls that take MLAG down.
-/

namespace SwitchFabric

open SwitchFabric.Topology (teardownQuestion teardownStep)

namespace Event

/-- The switch that is asked whether it has MLAG. -/
def queried? : Event → Option String
  | query switch _ => some switch
  | act _ _ _ | ask _ _ => none

/-- The switch that answers that it has MLAG. -/
def foundMlag? : Event → Option String
  | query switch (.ok true) => some switch
  | query _ _ | act _ _ _ | ask _ _ => none

/-- The question to the operator. -/
def asked? : Event → Option String
  | ask question _ => some question
  | act _ _ _ | query _ _ => none

/-- The switch on which MLAG is taken down, whether this succeeds or not. -/
def tornDown? : Event → Option String
  | act switch .deconfigureMlag _ => some switch
  | act _ _ _ | query _ _ | ask _ _ => none

end Event

/-- A question names its switch. -/
theorem teardownQuestion_inj {label label' : String} :
    teardownQuestion label = teardownQuestion label' ↔ label = label' := by
  have h (p q : String) : p ++ label ++ q = p ++ label' ++ q ↔ label = label' := by
    rw [String.append_left_inj, String.append_right_inj]
  exact h _ _

/-! ## Turns -/

/-- What can happen in a member's turn. -/
inductive Turn (label : String) : List Event → Prop where
  | unreachable (e : SwitchError) : Turn label [.query label (.error e)]
  | unconfigured : Turn label [.query label (.ok false)]
  | unanswered (e : PromptError) :
    Turn label [.query label (.ok true), .ask (teardownQuestion label) (.error e)]
  | declined : Turn label [.query label (.ok true), .ask (teardownQuestion label) (.ok false)]
  | consented (outcome : Except SwitchError Unit) :
    Turn label [.query label (.ok true), .ask (teardownQuestion label) (.ok true),
      .act label .deconfigureMlag outcome]

/-- What can happen in the turns of members, one after another. -/
inductive Turns : List String → List Event → Prop where
  | nil : Turns [] []
  | cons {label : String} {labels : List String} {turn es : List Event} :
    Turn label turn → Turns labels es → Turns (label :: labels) (turn ++ es)

theorem Turns.single {label : String} {turn : List Event} (h : Turn label turn) : Turns [label] turn := by
  have hs := Turns.cons h .nil
  rwa [List.append_nil] at hs

/-- An event in the turns is in some turn. -/
theorem Turns.exists_turn {labels : List String} {es a b : List Event} {e : Event} (h : Turns labels es)
    (he : es = a ++ e :: b) :
    ∃ label ∈ labels, ∃ a₁ a₂ b₁ b₂, a = a₁ ++ a₂ ∧ b = b₁ ++ b₂ ∧ Turn label (a₂ ++ e :: b₁) := by
  induction h generalizing a with
  | nil => exact absurd he.symm (by simp)
  | @cons label labels turn es hturn hs ih =>
    obtain ⟨rest, rfl, hb⟩ | ⟨front, ha, hes⟩ := split_append he
    · exact ⟨label, List.mem_cons_self, [], a, rest, es, rfl, hb, hturn⟩
    · obtain ⟨l, hl, a₁, a₂, b₁, b₂, rfl, rfl, ht⟩ := ih hes
      exact ⟨l, List.mem_cons_of_mem _ hl, turn ++ a₁, a₂, b₁, b₂, by rw [ha, List.append_assoc], rfl, ht⟩

theorem Turns.queried_eq {labels : List String} {es : List Event} (h : Turns labels es) :
    es.filterMap Event.queried? = labels := by
  induction h with
  | nil => rfl
  | cons hturn _ ih => rw [List.filterMap_append, ih]; cases hturn <;> rfl

theorem Turns.asked_eq {labels : List String} {es : List Event} (h : Turns labels es) :
    es.filterMap Event.asked? = (es.filterMap Event.foundMlag?).map teardownQuestion := by
  induction h with
  | nil => rfl
  | cons hturn _ ih =>
    rw [List.filterMap_append, List.filterMap_append, List.map_append, ih]
    cases hturn <;> rfl

/-- What is picked out of turns is a sublist of the members, if at most the member is picked out of its turn. -/
theorem Turns.filterMap_sublist {g : Event → Option String}
    (hg : ∀ label turn, Turn label turn → (turn.filterMap g).Sublist [label]) {labels : List String}
    {es : List Event} (h : Turns labels es) : (es.filterMap g).Sublist labels := by
  induction h with
  | nil => exact .slnil
  | cons hturn _ ih =>
    rw [List.filterMap_append]
    exact (hg _ _ hturn).append ih

theorem Turn.foundMlag_sublist {label : String} {turn : List Event} (h : Turn label turn) :
    (turn.filterMap Event.foundMlag?).Sublist [label] := by
  cases h with
  | unreachable | unconfigured => exact List.nil_sublist _
  | unanswered | declined | consented => exact List.Sublist.refl _

theorem Turn.tornDown_sublist {label : String} {turn : List Event} (h : Turn label turn) :
    (turn.filterMap Event.tornDown?).Sublist [label] := by
  cases h with
  | unreachable | unconfigured | unanswered | declined => exact List.nil_sublist _
  | consented => exact List.Sublist.refl _

/-- In a turn the question comes right after the switch's answer. -/
theorem Turn.of_ask {label question : String} {answer : Except PromptError Bool} {a b : List Event}
    (h : Turn label (a ++ .ask question answer :: b)) :
    question = teardownQuestion label ∧ a = [.query label (.ok true)] ∧
      (answer = .ok true → ∃ outcome, b = [.act label .deconfigureMlag outcome]) := by
  generalize he : a ++ .ask question answer :: b = es at h
  cases h <;>
    rcases a with _ | ⟨x, _ | ⟨y, _ | ⟨z, a⟩⟩⟩ <;> simp_all

/-- In a turn MLAG is taken down right after the operator's consent. -/
theorem Turn.of_act {label switch : String} {action : Action} {outcome : Except SwitchError Unit}
    {a b : List Event} (h : Turn label (a ++ .act switch action outcome :: b)) :
    switch = label ∧ action = .deconfigureMlag ∧
      a = [.query label (.ok true), .ask (teardownQuestion label) (.ok true)] := by
  generalize he : a ++ .act switch action outcome :: b = es at h
  cases h <;>
    rcases a with _ | ⟨x, _ | ⟨y, _ | ⟨z, a⟩⟩⟩ <;> simp_all

/-! ## The turns of a run -/

namespace Topology

variable {σ π : Type} (f : Fleet σ) (o : Operator π)

/-- The members have their turns in order, and a turn that fails is the last one. -/
theorem exists_turns (labels : List String) (s : PassState σ π) :
    ∃ reached, reached <+: labels ∧ Turns reached ((Pass.plan (labels.map teardownStep)).events f o s) ∧
      (((Pass.plan (labels.map teardownStep)).run f o s).1 = .ok () → reached = labels) := by
  induction labels generalizing s with
  | nil => exact ⟨[], List.prefix_rfl, .nil, fun _ => rfl⟩
  | cons label labels ih =>
    -- a turn that fails, and one after which the others go on
    have hlast {turn : List Event} {why : PassError} (h : Turn label turn) :
        ∃ reached, reached <+: label :: labels ∧ Turns reached turn ∧
          ((.error why : Except PassError Unit) = .ok () → reached = label :: labels) :=
      ⟨[label], ⟨labels, rfl⟩, .single h, nofun⟩
    have hnext {turn : List Event} (h : Turn label turn) (s : PassState σ π) :
        ∃ reached, reached <+: label :: labels ∧
          Turns reached (turn ++ (Pass.plan (labels.map teardownStep)).events f o s) ∧
          (((Pass.plan (labels.map teardownStep)).run f o s).1 = .ok () → reached = label :: labels) := by
      obtain ⟨reached, hreached, hturns, hok⟩ := ih s
      refine ⟨label :: reached, ?_, .cons h hturns, fun hrun => by rw [hok hrun]⟩
      exact List.cons_prefix_cons.2 ⟨rfl, hreached⟩
    rw [List.map_cons, Pass.plan_cons, teardownStep, Step.plan, Plan.events, Plan.run]
    rcases f.isMlagConfigured label s.fleet with ⟨e | _ | _, fleet⟩
    · exact hlast (.unreachable e)
    · exact hnext .unconfigured _
    · dsimp only
      rw [if_pos rfl, Plan.events, Plan.run]
      dsimp only
      rcases o.confirm (teardownQuestion label) s.operator with ⟨e | _ | _, operator⟩
      · exact hlast (.unanswered e)
      · exact hnext .declined _
      · dsimp only
        rw [if_pos rfl, Plan.actions_cons, Plan.actions_nil, Plan.events, Plan.run]
        dsimp only
        rcases f.act label .deconfigureMlag fleet with ⟨e | _, fleet⟩
        · exact hlast (.consented (.error e))
        · exact hnext (.consented (.ok ())) _

end Topology

/-- The event is no question to the operator and does not take MLAG down. -/
def Event.Quiet (e : Event) : Prop := e.asked? = none ∧ e.tornDown? = none

theorem Event.not_quiet_ask (question : String) (answer : Except PromptError Bool) :
    ¬ (ask question answer).Quiet := fun h => by cases h.1

theorem Event.not_quiet_tornDown (label : String) (outcome : Except SwitchError Unit) :
    ¬ (act label .deconfigureMlag outcome).Quiet := fun h => by cases h.2

theorem Step.Quiet.event {t : Step} {e : Event} (h : t.Quiet) (hp : t.Permits e) : e.Quiet := by
  cases hp with
  | @act a outcome ha =>
    refine ⟨rfl, ?_⟩
    cases a <;> first | rfl | exact absurd ha h.2
  | query answer => exact ⟨rfl, rfl⟩
  | ask answer hq =>
    rw [h.1] at hq
    cases hq

namespace Topology

variable {σ π : Type} (f : Fleet σ) (o : Operator π)

/-- Between removing the port channels and taking back VLANs and MTUs, the members have their turns. -/
theorem exists_phases (t : Topology) (s : PassState σ π) :
    ∃ before turns after reached, (Pass.plan t.deconfigure).events f o s = before ++ (turns ++ after) ∧
      (∀ e ∈ before ++ after, e.Quiet) ∧ reached <+: t.memberLabels ∧ Turns reached turns ∧
      (((Pass.plan t.deconfigure).run f o s).1 = .ok () → reached = t.memberLabels) := by
  have hquiet {ts : List Step} (hts : ∀ u ∈ ts, u.Quiet) (s : PassState σ π) :
      ∀ e ∈ (Pass.plan ts).events f o s, e.Quiet := fun e he => by
    obtain ⟨u, hu, hp⟩ := Pass.permits_of_mem_events f o he
    exact (hts u hu).event hp
  have hbefore := hquiet (fun _ => quiet_deconfigureChannels (t := t)) s
  rw [deconfigure_eq, Pass.plan_append, Pass.plan_append, Plan.events_andThen, Plan.run_andThen]
  rcases (Pass.plan t.deconfigureChannels).run f o s with ⟨e | _, s⟩
  · refine ⟨_, [], [], [], rfl, ?_, List.nil_prefix, .nil, nofun⟩
    rw [List.append_nil]
    exact hbefore
  · dsimp only
    rw [Plan.events_andThen, Plan.run_andThen]
    obtain ⟨reached, hreached, hturns, hok⟩ := exists_turns f o t.memberLabels s
    rcases hrun : (Pass.plan (t.memberLabels.map teardownStep)).run f o s with ⟨e | _, s'⟩
    · refine ⟨_, _, [], reached, rfl, ?_, hreached, hturns, nofun⟩
      rw [List.append_nil]
      exact hbefore
    · rw [hrun] at hok
      refine ⟨_, _, _, reached, rfl, fun e he => ?_, hreached, hturns, fun _ => hok rfl⟩
      rcases List.mem_append.1 he with he | he
      · exact hbefore e he
      · exact hquiet (fun _ => quiet_release (t := t)) s' e he

end Topology

/-! ## Consent -/

/-- A place of the middle part of a list that the parts around it do not have. -/
theorem exists_split_of_not_mem {α : Type} {xs ys zs a b : List α} {x : α}
    (h : xs ++ (ys ++ zs) = a ++ x :: b) (hx : x ∉ xs) (hz : x ∉ zs) :
    ∃ a' b', ys = a' ++ x :: b' ∧ a = xs ++ a' ∧ b = b' ++ zs := by
  obtain ⟨a', rfl, hrest⟩ := split_append_right hx h
  obtain ⟨b', rfl, rfl⟩ := split_append_left hz hrest
  exact ⟨a', b', rfl, rfl, rfl⟩

/-- MLAG is taken down on the members of pairs with the operator's consent only. -/
structure ConsentKept (members : List String) (es : List Event) (result : Except PassError Unit) :
    Prop where
  /-- The members have their turns in order, all of them if the pass ends well. The operator is asked once for
  each member that has MLAG at its turn, in this order, with a question that names it. -/
  turns : ∃ before turns after reached, es = before ++ (turns ++ after) ∧
    (∀ e ∈ before ++ after, e.Quiet) ∧ reached <+: members ∧ Turns reached turns ∧
    (result = .ok () → reached = members) ∧ turns.filterMap Event.queried? = reached ∧
    es.filterMap Event.asked? = (turns.filterMap Event.foundMlag?).map teardownQuestion
  asked_once : (es.filterMap Event.asked?).Nodup
  tornDown_once : (es.filterMap Event.tornDown?).Nodup
  /-- A question comes right after its switch has said that it has MLAG. -/
  found {a b : List Event} {question : String} {answer : Except PromptError Bool} :
    es = a ++ .ask question answer :: b → ∃ label ∈ members, ∃ a', question = teardownQuestion label ∧
      a = a' ++ [.query label (.ok true)]
  /-- Right after consent MLAG is taken down on the switch. -/
  obeyed {a b : List Event} {label : String} : es = a ++ .ask (teardownQuestion label) (.ok true) :: b →
    ∃ outcome b', b = .act label .deconfigureMlag outcome :: b'
  /-- MLAG is taken down on a switch right after consent. -/
  consented {a b : List Event} {label : String} {outcome : Except SwitchError Unit} :
    es = a ++ .act label .deconfigureMlag outcome :: b → ∃ a', a = a' ++
      [.query label (.ok true), .ask (teardownQuestion label) (.ok true)]
  /-- If the operator cannot answer, the pass ends. -/
  unanswered {a b : List Event} {question : String} {e : PromptError} :
    es = a ++ .ask question (.error e) :: b → b = [] ∧ result = .error (.prompt e)

namespace ConsentKept

/-- A pass that fails before anything happens. -/
theorem nil (members : List String) (why : PassError) : ConsentKept members [] (.error why) where
  turns := ⟨[], [], [], [], rfl, by simp, List.nil_prefix, .nil, nofun, rfl, rfl⟩
  asked_once := List.nodup_nil
  tornDown_once := List.nodup_nil
  found h := by simp at h
  obeyed h := by simp at h
  consented h := by simp at h
  unanswered h := by simp at h

/-- MLAG is taken down on a switch if and only if the operator consents to this. -/
theorem tornDown_iff {members : List String} {es : List Event} {result : Except PassError Unit}
    (h : ConsentKept members es result) (label : String) :
    (∃ outcome, .act label .deconfigureMlag outcome ∈ es) ↔
      .ask (teardownQuestion label) (.ok true) ∈ es := by
  constructor
  · rintro ⟨outcome, hm⟩
    obtain ⟨a, b, hab⟩ := List.append_of_mem hm
    obtain ⟨a', rfl⟩ := h.consented hab
    rw [hab]
    simp
  · intro hm
    obtain ⟨a, b, hab⟩ := List.append_of_mem hm
    obtain ⟨outcome, b', rfl⟩ := h.obeyed hab
    refine ⟨outcome, ?_⟩
    rw [hab]
    simp

end ConsentKept

namespace Topology

variable {σ π : Type} (f : Fleet σ) (o : Operator π)

/-- The events of deconfiguring on switches that all have drivers. -/
theorem consentKept_plan (t : Topology) (hmembers : t.memberLabels.Nodup) (s : PassState σ π) :
    ConsentKept t.memberLabels ((Pass.plan t.deconfigure).events f o s)
      ((Pass.plan t.deconfigure).run f o s).1 := by
  obtain ⟨before, turns, after, reached, hes, hquiet, hreached, hturns, hok⟩ := exists_phases f o t s
  have hnodup : reached.Nodup := hmembers.sublist hreached.sublist
  have hnil {g : Event → Option String} (hg : ∀ e, e.Quiet → g e = none) :
      ((Pass.plan t.deconfigure).events f o s).filterMap g = turns.filterMap g := by
    have hb : before.filterMap g = [] := List.filterMap_eq_nil_iff.2 fun e he =>
      hg e (hquiet e (List.mem_append_left _ he))
    have ha : after.filterMap g = [] := List.filterMap_eq_nil_iff.2 fun e he =>
      hg e (hquiet e (List.mem_append_right _ he))
    rw [hes, List.filterMap_append, List.filterMap_append, hb, ha, List.nil_append, List.append_nil]
  have hasked := hnil fun e he => he.1
  have htorn := hnil fun e he => he.2
  -- an event that is not quiet stands in the turn of a member
  have hin {a b : List Event} {e : Event} (he : ¬ e.Quiet)
      (h : (Pass.plan t.deconfigure).events f o s = a ++ e :: b) :
      ∃ label ∈ t.memberLabels, ∃ a₁ a₂ b₁ b₂, a = a₁ ++ a₂ ∧ b = b₁ ++ b₂ ∧
        Turn label (a₂ ++ e :: b₁) := by
    obtain ⟨a', b', hsplit, rfl, rfl⟩ := exists_split_of_not_mem (hes.symm.trans h)
      (fun hm => he (hquiet e (List.mem_append_left _ hm)))
      (fun hm => he (hquiet e (List.mem_append_right _ hm)))
    obtain ⟨label, hl, a₁, a₂, b₁, b₂, rfl, rfl, hturn⟩ := hturns.exists_turn hsplit
    exact ⟨label, hreached.subset hl, before ++ a₁, a₂, b₁, b₂ ++ after, by simp, by simp, hturn⟩
  constructor
  case turns =>
    refine ⟨before, turns, after, reached, hes, hquiet, hreached, hturns, hok, hturns.queried_eq, ?_⟩
    rw [hasked, hturns.asked_eq]
  case asked_once =>
    rw [hasked, hturns.asked_eq]
    have hfound := hnodup.sublist (hturns.filterMap_sublist fun _ _ => Turn.foundMlag_sublist)
    exact List.pairwise_map.2 (hfound.imp fun hne hq => hne (teardownQuestion_inj.1 hq))
  case tornDown_once =>
    rw [htorn]
    exact hnodup.sublist (hturns.filterMap_sublist fun _ _ => Turn.tornDown_sublist)
  case found =>
    intro a b question answer h
    obtain ⟨label, hl, a₁, a₂, b₁, b₂, rfl, rfl, hturn⟩ := hin (Event.not_quiet_ask _ _) h
    obtain ⟨hquestion, rfl, -⟩ := hturn.of_ask
    exact ⟨label, hl, a₁, hquestion, rfl⟩
  case obeyed =>
    intro a b label h
    obtain ⟨label', -, a₁, a₂, b₁, b₂, rfl, rfl, hturn⟩ := hin (Event.not_quiet_ask _ _) h
    obtain ⟨hquestion, rfl, hact⟩ := hturn.of_ask
    obtain ⟨outcome, rfl⟩ := hact rfl
    rw [teardownQuestion_inj.1 hquestion]
    exact ⟨outcome, b₂, rfl⟩
  case consented =>
    intro a b label outcome h
    obtain ⟨label', -, a₁, a₂, b₁, b₂, rfl, rfl, hturn⟩ := hin (Event.not_quiet_tornDown _ _) h
    obtain ⟨rfl, -, rfl⟩ := hturn.of_act
    exact ⟨a₁, rfl⟩
  case unanswered =>
    intro a b question e h
    exact Plan.eq_nil_of_error f o h rfl

end Topology

/-! ## The calls that do not depend on consent -/

/-- The event is no question that the operator could not answer. -/
def Event.answered : Event → Bool
  | ask _ (.error _) => false
  | ask _ (.ok _) | act _ _ _ | query _ _ => true

/-- Every question was answered. -/
def Answered (es : List Event) : Prop := ∀ e ∈ es, e.answered = true

instance (es : List Event) : Decidable (Answered es) :=
  inferInstanceAs (Decidable (∀ e ∈ es, e.answered = true))

/-- The call does not take MLAG down. -/
def RecordedCall.keepsMlag (c : RecordedCall) : Bool := c.call != .act .deconfigureMlag

namespace Recording

variable {π : Type} (o : Operator π)

/-- On switches that never fail, only the operator can end a pass. -/
theorem ok_of_answered {p : Plan} {s : PassState Recording π} (hs : s.fleet.Sound)
    (h : Answered (p.events fleet o s)) : (p.run fleet o s).1 = .ok () := by
  induction p generalizing s with
  | done => rfl
  | act switch a k ih =>
    rw [Plan.events, hs.act_eq] at h
    rw [Plan.run, hs.act_eq]
    exact ih (s := { s with fleet := s.fleet.after ⟨switch, .act a⟩ }) (hs.after _)
      fun e hm => h e (List.mem_cons_of_mem _ hm)
  | query switch k ih =>
    rw [Plan.events, hs.isMlagConfigured_eq] at h
    rw [Plan.run, hs.isMlagConfigured_eq]
    exact ih _ (s := { s with fleet := s.fleet.after ⟨switch, .isMlagConfigured⟩ }) (hs.after _)
      fun e hm => h e (List.mem_cons_of_mem _ hm)
  | ask question k ih =>
    rw [Plan.events] at h
    rw [Plan.run]
    rcases hc : o.confirm question s.operator with ⟨e | answer, operator⟩ <;> rw [hc] at h
    · exact absurd (h _ List.mem_cons_self) Bool.false_ne_true
    · exact ih answer (s := { s with operator := operator }) hs
        fun e hm => h e (List.mem_cons_of_mem _ hm)

/-- The calls that are made in turns, but for those that take MLAG down. -/
theorem kept_calls_turns {labels : List String} {es : List Event} (h : Turns labels es) :
    (es.filterMap Event.call?).filter RecordedCall.keepsMlag =
      labels.map fun label => ⟨label, .isMlagConfigured⟩ := by
  induction h with
  | nil => rfl
  | cons hturn _ ih =>
    rw [List.filterMap_append, List.filter_append, ih]
    cases hturn <;> rfl

end Recording

namespace Topology

/-- The calls of deconfiguring but for those that take MLAG down, on switches that never fail and whose MLAG
is as in `m`. -/
def keptCalls (t : Topology) (m : String → Bool) : List RecordedCall :=
  ((Pass.plan t.deconfigureChannels).calls m).filter RecordedCall.keepsMlag ++
    (t.memberLabels.map (fun label => ⟨label, .isMlagConfigured⟩) ++
      ((Pass.plan (t.deconfigureVlans ++ t.deconfigureMtus)).calls m).filter RecordedCall.keepsMlag)

open Recording in
/-- If every question is answered, the answers matter to the calls that take MLAG down and to no other. -/
theorem kept_calls_plan (t : Topology) {π : Type} (o : Operator π) {s : PassState Recording π}
    (hs : s.fleet.Sound) (h : Answered ((Pass.plan t.deconfigure).events fleet o s)) :
    (((Pass.plan t.deconfigure).events fleet o s).filterMap Event.call?).filter RecordedCall.keepsMlag =
      t.keptCalls s.fleet.mlag := by
  rw [deconfigure_eq, Pass.plan_append, Pass.plan_append, Plan.events_andThen] at h ⊢
  obtain ⟨hok, hcalls⟩ := run_of_agreed o _ s hs
    (Pass.agreed_of_quiet fleet o (fun _ => quiet_deconfigureChannels (t := t)) s)
  have hs₁ := (run_of_sound o (Pass.plan t.deconfigureChannels) s hs).1
  rcases hrun : (Pass.plan t.deconfigureChannels).run fleet o s with ⟨_, s₁⟩
  rw [hrun] at hok hs₁ h
  cases hok
  dsimp only at hs₁ h ⊢
  -- the members of the pairs
  rw [Plan.events_andThen] at h ⊢
  obtain ⟨reached, -, hturns, hall⟩ := exists_turns fleet o t.memberLabels s₁
  have hok₁ := ok_of_answered o hs₁ fun e hm =>
    h e (List.mem_append_right _ (List.mem_append_left _ hm))
  obtain rfl := hall hok₁
  have hs₂ := (run_of_sound o (Pass.plan (t.memberLabels.map teardownStep)) s₁ hs₁).1
  rcases hrun₁ : (Pass.plan (t.memberLabels.map teardownStep)).run fleet o s₁ with ⟨_, s₂⟩
  rw [hrun₁] at hok₁ hs₂
  cases hok₁
  dsimp only at hs₂ ⊢
  -- VLANs and MTUs
  have hrest := (run_of_agreed o _ s₂ hs₂
    (Pass.agreed_of_quiet fleet o (fun _ => quiet_release (t := t)) s₂)).2
  have hacts : ∀ u ∈ t.deconfigureVlans ++ t.deconfigureMtus, ∃ switch a, u = .act switch a :=
    fun u hu => by
      obtain ⟨switch, a, hact, -⟩ := act_of_mem_release hu
      exact ⟨switch, a, hact⟩
  rw [Pass.calls_of_acts hacts _ s.fleet.mlag] at hrest
  simp only [List.filterMap_append, List.filter_append]
  rw [hcalls, hrest, kept_calls_turns hturns, keptCalls]

theorem consentKept_pass {σ π : Type} (f : Fleet σ) (o : Operator π) (t : Topology)
    (hmembers : t.memberLabels.Nodup) (s : PassState σ π) :
    ConsentKept t.memberLabels (Pass.events f o t t.deconfigure s)
      (Pass.run f o t t.deconfigure s).1 := by
  cases h : Pass.missingDriver f t.switches s.fleet with
  | some label =>
    rw [Pass.events_of_missing f o h, Pass.run_of_missing f o h]
    exact .nil _ _
  | none =>
    rw [Pass.events_of_covered f o h, Pass.run_of_covered f o h]
    exact consentKept_plan f o t hmembers s

open Recording in
/-- If every question is answered, deconfiguring recording switches that never fail ends well, and what they
record but for the calls that take MLAG down is the same for all answers. -/
theorem kept_calls_pass (t : Topology) {π : Type} (o : Operator π) {s : PassState Recording π}
    (hs : s.fleet.Sound) (hcovered : Pass.missingDriver fleet t.switches s.fleet = none)
    (h : Answered (Pass.events fleet o t t.deconfigure s)) :
    (Pass.run fleet o t t.deconfigure s).1 = .ok () ∧
      (Pass.run fleet o t t.deconfigure s).2.fleet.log.filter RecordedCall.keepsMlag =
        s.fleet.log.filter RecordedCall.keepsMlag ++ t.keptCalls s.fleet.mlag := by
  rw [log_pass o t t.deconfigure s, Pass.run_of_covered fleet o hcovered]
  rw [Pass.events_of_covered fleet o hcovered] at h ⊢
  refine ⟨ok_of_answered o hs h, ?_⟩
  rw [List.filter_append, kept_calls_plan t o hs h]

/-- MLAG is taken down with consent only. Let no switch be a member of two pairs. With any drivers and any
operator, the members of the pairs have their turns in order when the fabric is deconfigured: a member that has
MLAG has one question asked about it, and MLAG is taken down on it right after consent and not without; an
operator that cannot answer ends the pass. On recording switches that never fail, two operators who answer
every question see the same calls but for those that take MLAG down. -/
theorem deconfigure_keeps_consent (t : Topology) (hmembers : t.memberLabels.Nodup) :
    (∀ (σ π : Type) (f : Fleet σ) (o : Operator π) (s : PassState σ π),
      let es := Pass.events f o t t.deconfigure s
      let run := Pass.run f o t t.deconfigure s
      Plan.Happens f o s es run.2 ∧ ConsentKept t.memberLabels es run.1 ∧
        ∀ label, (∃ outcome, .act label .deconfigureMlag outcome ∈ es) ↔
          .ask (teardownQuestion label) (.ok true) ∈ es) ∧
    ∀ (π π' : Type) (o : Operator π) (o' : Operator π') (r : Recording) (operator : π) (operator' : π'),
      let s : PassState Recording π := ⟨r, operator⟩
      let s' : PassState Recording π' := ⟨r, operator'⟩
      let run := Pass.run Recording.fleet o t t.deconfigure s
      let run' := Pass.run Recording.fleet o' t t.deconfigure s'
      r.Sound → Answered (Pass.events Recording.fleet o t t.deconfigure s) →
        Answered (Pass.events Recording.fleet o' t t.deconfigure s') →
        run.1 = run'.1 ∧ run.2.fleet.log.filter RecordedCall.keepsMlag =
          run'.2.fleet.log.filter RecordedCall.keepsMlag := by
  constructor
  · intro σ π f o s es run
    have hkept := consentKept_pass f o t hmembers s
    exact ⟨Pass.happens_events f o t t.deconfigure s, hkept, hkept.tornDown_iff⟩
  · intro π π' o o' r operator operator' s s' run run' hr h h'
    cases hm : Pass.missingDriver Recording.fleet t.switches r with
    | some label =>
      have hrun : run = (.error (.missingDriver label), s) := Pass.run_of_missing _ o hm _
      have hrun' : run' = (.error (.missingDriver label), s') := Pass.run_of_missing _ o' hm _
      rw [hrun, hrun']
      exact ⟨rfl, rfl⟩
    | none =>
      obtain ⟨hresult, hlog⟩ := kept_calls_pass t o (s := s) hr hm h
      obtain ⟨hresult', hlog'⟩ := kept_calls_pass t o' (s := s') hr hm h'
      exact ⟨hresult.trans hresult'.symm, hlog.trans hlog'.symm⟩

/-- Both members of a pair have MLAG. Whether the operator consents or not, the port channels, the VLANs and
the MTUs of the pair are taken back. -/
theorem deconfigure_keeps_consent_mlagPair :
    let t := Scenario.mlagPair.topology
    let switches := SortedMap.ofList [("data_1", ⟨true, none⟩), ("data_2", ⟨true, none⟩)]
    let run := Pass.run Recording.fleet Script.operator t t.deconfigure
      ⟨Recording.start switches, ⟨[true, true], []⟩⟩
    let run' := Pass.run Recording.fleet Script.operator t t.deconfigure
      ⟨Recording.start switches, ⟨[false, false], []⟩⟩
    t.memberLabels = ["data_1", "data_2"] ∧ run.2.operator.asked.length = 2 ∧ run.1 = run'.1 ∧
      run.2.fleet.log.filter RecordedCall.keepsMlag = run'.2.fleet.log.filter RecordedCall.keepsMlag ∧
      run.2.fleet.log ≠ run'.2.fleet.log := by
  intro t switches run run'
  have hsound : (Recording.start switches).Sound := Recording.sound_of_failOn (by decide +kernel)
  have hmembers : t.memberLabels = ["data_1", "data_2"] := by decide +kernel
  obtain ⟨hresult, hlog⟩ := (deconfigure_keeps_consent t (by rw [hmembers]; decide)).2 _ _
    Script.operator Script.operator (Recording.start switches) ⟨[true, true], []⟩ ⟨[false, false], []⟩
    hsound (by decide +kernel) (by decide +kernel)
  refine ⟨hmembers, ?_, hresult, ?_, ?_⟩
  · decide +kernel
  · dsimp only [run, run']
    exact hlog
  · decide +kernel

end Topology

end SwitchFabric
