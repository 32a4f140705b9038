import SwitchFabric.Proofs.Pass.Effects
import SwitchFabric.Proofs.Pass.Guards
import SwitchFabric.Proofs.Recording.FailStop

/-!
# Calls about MLAG follow the state of the switch

The MLAG of a recording switch is what the actions done on it have made of it (`mlag_of_happens`), and a switch that
answers tells this state (`truthful_events`). Since the passes act on MLAG only right after an answer (`Guarded`), and
nothing is done on the switch in between, the switch is still in the state that the action needs
(`mlag_before_guarded`).

So it is in all passes on recording switches, one after the other, over any topologies and with any failures and
answers (`mlag_calls_follow_state`): MLAG is configured where it is not, and enabled and taken down where it is, so that
it is configured and taken down by turns (`isChain_mlagSets`).
-/

namespace SwitchFabric

/-- What an action makes of the MLAG of its switch, if anything. -/
def Action.mlagSet? : Action → Option Bool
  | configureMlag _ => some true
  | deconfigureMlag => some false
  | _ => none

/-- MLAG is configured where it is not, and taken down where it is. -/
theorem Action.mlagNeeded?_of_mlagSet? {a : Action} {made : Bool} (h : a.mlagSet? = some made) :
    a.mlagNeeded? = some !made := by
  cases a with
  | configureMlag | deconfigureMlag =>
    cases h
    rfl
  | _ => cases h

namespace Recording

/-- The MLAG of a switch after actions on it. -/
def mlagOf (before : Bool) (as : List Action) : Bool := as.foldl mlagAfter before

theorem mlagOf_append (before : Bool) (as bs : List Action) :
    mlagOf before (as ++ bs) = mlagOf (mlagOf before as) bs := List.foldl_append

theorem mlagAfter_eq (before : Bool) (a : Action) : mlagAfter before a = a.mlagSet?.getD before := by
  cases a <;> rfl

/-- Actions that need the other state for what they make of MLAG do so by turns. -/
theorem isChain_mlagSets {as : List Action} {start : Bool}
    (h : ∀ before a after made, as = before ++ a :: after → a.mlagSet? = some made → mlagOf start before = !made) :
    (start :: as.filterMap Action.mlagSet?).IsChain (· ≠ ·) := by
  induction as generalizing start with
  | nil => exact .singleton _
  | cons a as ih =>
    have hrest : ∀ before b after made, as = before ++ b :: after → b.mlagSet? = some made →
        mlagOf (mlagAfter start a) before = !made := fun before b after made heq =>
      h (a :: before) b after made (by rw [heq, List.cons_append])
    have hchain := ih hrest
    rw [mlagAfter_eq] at hchain
    cases ha : a.mlagSet? with
    | none =>
      rw [List.filterMap_cons_none ha]
      rwa [ha, Option.getD_none] at hchain
    | some made =>
      rw [List.filterMap_cons_some ha]
      rw [ha, Option.getD_some] at hchain
      have hstart : start = !made := h [] a as made rfl ha
      exact .cons_cons (by simp [hstart]) hchain

/-! ## What switches answer -/

variable {π : Type} {o : Operator π} {s s' : PassState Recording π} {es : List Event} {label : String}

theorem mlag_act (switch : String) (a : Action) (r : Recording) :
    (fleet.act switch a r).2.mlag label =
      mlagOf (r.mlag label) ((Event.act switch a (fleet.act switch a r).1).effect? label).toList := by
  rw [act_eq]
  cases r.fails ⟨switch, .act a⟩ with
  | true => rfl
  | false =>
    rw [if_neg Bool.false_ne_true, mlag_after]
    show (if label = switch then mlagAfter (r.mlag label) a else r.mlag label) =
      mlagOf (r.mlag label) (if switch = label then some a else none).toList
    by_cases hs : switch = label
    · rw [if_pos hs.symm, if_pos hs]
      rfl
    · rw [if_neg (Ne.symm hs), if_neg hs]
      rfl

theorem mlag_isMlagConfigured (switch : String) (r : Recording) :
    (fleet.isMlagConfigured switch r).2.mlag = r.mlag := by
  rw [isMlagConfigured_eq]
  cases r.fails ⟨switch, .isMlagConfigured⟩ <;> rfl

/-- The MLAG of a switch follows what has been done on it. -/
theorem mlag_of_happens (h : Plan.Happens fleet o s es s') :
    s'.fleet.mlag label = mlagOf (s.fleet.mlag label) (effects label es) := by
  induction h with
  | nil => rfl
  | act switch a _ ih => rw [ih, effects_cons, mlagOf_append, ← mlag_act]
  | query switch _ ih =>
    rw [ih, mlag_isMlagConfigured]
    rfl
  | ask question _ ih => exact ih

/-- Every switch that answers tells what has been made of its MLAG. -/
def Truthful (start : String → Bool) (es : List Event) : Prop :=
  ∀ before label answer after, es = before ++ .query label (.ok answer) :: after →
    answer = mlagOf (start label) (effects label before)

theorem truthful_of_happens (h : Plan.Happens fleet o s es s') : Truthful s.fleet.mlag es := by
  rintro before label answer after rfl
  obtain ⟨between, hbefore, hquery⟩ := h.of_append
  rw [← mlag_of_happens hbefore]
  generalize hanswer : (Except.ok answer : Except SwitchError Bool) = outcome at hquery
  cases hquery
  rw [isMlagConfigured_eq] at hanswer
  split at hanswer
  · cases hanswer
  · exact Except.ok.inj hanswer

theorem Truthful.append {start mid : String → Bool} {fs : List Event} (h : Truthful start es)
    (hmid : ∀ label, mid label = mlagOf (start label) (effects label es)) (h' : Truthful mid fs) :
    Truthful start (es ++ fs) := by
  intro before label answer after heq
  obtain ⟨es', rfl, -⟩ | ⟨fs', rfl, hfs⟩ := split_append heq
  · exact h before label answer es' rfl
  · rw [effects_append, mlagOf_append, ← hmid]
    exact h' fs' label answer after hfs

theorem effects_of_not_called (h : ∀ e ∈ es, e.callee? ≠ some label) : effects label es = [] := by
  refine List.filterMap_eq_nil_iff.2 fun e he => ?_
  cases e with
  | act switch a outcome =>
    have hs : switch ≠ label := fun hs => h _ he (congrArg some hs)
    cases outcome with
    | error => rfl
    | ok => exact if_neg hs
  | query | ask => rfl

/-- The state that an action on MLAG needs is the state of its switch. -/
theorem mlag_before_guarded {start : String → Bool} (hguarded : Guarded es) (htruthful : Truthful start es)
    {before after : List Event} {a : Action} {outcome : Except SwitchError Unit} {needed : Bool}
    (heq : es = before ++ .act label a outcome :: after) (hneeded : a.mlagNeeded? = some needed) :
    mlagOf (start label) (effects label before) = needed ∧
      lastCall? label before = some (.query label (.ok needed)) := by
  have hlast := hguarded before label a outcome after needed heq hneeded
  refine ⟨?_, hlast⟩
  obtain ⟨asked, since, rfl, hsince⟩ := exists_of_lastCall? hlast
  have hanswer := htruthful asked label needed (since ++ .act label a outcome :: after) (by rw [heq]; simp)
  have hnone : effects label (.query label (.ok needed) :: since) = [] := by
    rw [effects_cons, effects_of_not_called hsince]
    rfl
  rw [effects_append, hnone, List.append_nil, ← hanswer]

/-! ## Passes one after the other -/

/-- Passes on recording switches, one after the other, and what happens in them. Each may be over another topology, and
with another operator; before each of them a method of each switch may be made to fail. -/
inductive Passes (switches : SortedMap String RecordingSwitch) : Recording → List Event → Prop where
  | start : Passes switches (start switches) []
  | pass {r : Recording} {es : List Event} {π : Type} (o : Operator π) (operator : π) (t : Topology)
    {pass : List Step} (failing : String → Option String) :
    Passes switches r es → pass ∈ [t.configure, t.deconfigure] →
      Passes switches (Pass.run fleet o t pass ⟨⟨inject failing r.switches, r.log⟩, operator⟩).2.fleet
        (es ++ Pass.events fleet o t pass ⟨⟨inject failing r.switches, r.log⟩, operator⟩)

namespace Passes

variable {switches : SortedMap String RecordingSwitch} {r : Recording}

theorem log (h : Passes switches r es) : r.log = es.filterMap Event.call? := by
  induction h with
  | start => rfl
  | pass o operator t failing _ _ ih => rw [log_pass, List.filterMap_append, ← ih]

theorem guarded (h : Passes switches r es) : Guarded es := by
  induction h with
  | start => exact .nil
  | pass o operator t failing _ hpass ih => exact ih.append (Topology.guarded_pass fleet o hpass _)

/-- Each switch tells what has been made of its MLAG since the first pass, and is in this state after the last. -/
theorem follows (h : Passes switches r es) :
    Truthful (Recording.start switches).mlag es ∧
      ∀ label, r.mlag label = mlagOf ((Recording.start switches).mlag label) (effects label es) := by
  induction h with
  | start => exact ⟨fun before _ _ _ heq => by simp at heq, fun _ => rfl⟩
  | @pass r es π o operator t pass failing _ _ ih =>
    obtain ⟨htruthful, hmlag⟩ := ih
    have hinject : (⟨inject failing r.switches, r.log⟩ : Recording).mlag = r.mlag := mlag_start_inject failing r.switches
    have hhappens := Pass.happens_events fleet o t pass ⟨⟨inject failing r.switches, r.log⟩, operator⟩
    have hnew := truthful_of_happens hhappens
    rw [hinject] at hnew
    refine ⟨htruthful.append hmlag hnew, fun label => ?_⟩
    rw [mlag_of_happens hhappens, hinject, hmlag, ← mlagOf_append, ← effects_append]

end Passes

/-- In passes on recording switches, one after the other, every call on a switch to configure MLAG comes while MLAG is not
configured on it, and every call to enable it or to take it down while it is; this is also what the last call before it
on the switch was, the question whether MLAG is configured, and its answer. The calls to configure it and to take it down
that succeed come by turns. -/
theorem mlag_calls_follow_state {switches : SortedMap String RecordingSwitch} {r : Recording} {es : List Event}
    (h : Passes switches r es) (label : String) :
    let start := (Recording.start switches).mlag label
    r.log = es.filterMap Event.call? ∧ r.mlag label = mlagOf start (effects label es) ∧
      (∀ before a outcome after needed, es = before ++ .act label a outcome :: after →
        a.mlagNeeded? = some needed →
          mlagOf start (effects label before) = needed ∧
            lastCall? label before = some (.query label (.ok needed))) ∧
      (start :: (effects label es).filterMap Action.mlagSet?).IsChain (· ≠ ·) := by
  intro start
  obtain ⟨htruthful, hmlag⟩ := h.follows
  have hcalls (before : List Event) (a : Action) (outcome : Except SwitchError Unit) (after : List Event)
      (needed : Bool) (heq : es = before ++ .act label a outcome :: after) (hneeded : a.mlagNeeded? = some needed) :=
    mlag_before_guarded h.guarded htruthful heq hneeded
  refine ⟨h.log, hmlag label, hcalls, isChain_mlagSets fun as a bs made heq hmade => ?_⟩
  obtain ⟨before, after, hes, hbefore⟩ := exists_of_effects heq
  rw [← hbefore]
  exact (hcalls before a (.ok ()) after (!made) hes (Action.mlagNeeded?_of_mlagSet? hmade)).1

/-- A pair of which the first member has MLAG from the start is configured as far as to the second member, where MLAG
cannot be enabled; then MLAG is taken down on both members; then the pair is configured to the end. -/
theorem mlag_calls_follow_state_mlagPair :
    let switches := SortedMap.ofList [("data_1", ⟨true, none⟩), ("data_2", ⟨false, none⟩)]
    ∃ r es, Passes switches r es ∧
      (effects "data_1" es).filterMap Action.mlagSet? = [false, true] ∧
      (effects "data_2" es).filterMap Action.mlagSet? = [true, false, true] ∧
      (true :: (effects "data_1" es).filterMap Action.mlagSet?).IsChain (· ≠ ·) ∧
      (false :: (effects "data_2" es).filterMap Action.mlagSet?).IsChain (· ≠ ·) := by
  intro switches
  let t := Scenario.mlagPair.topology
  have hconfigure : t.configure ∈ [t.configure, t.deconfigure] := List.mem_cons_self
  have hdeconfigure : t.deconfigure ∈ [t.configure, t.deconfigure] :=
    List.mem_cons_of_mem _ (List.mem_singleton_self _)
  have hstart : Passes switches (Recording.start switches) [] := .start
  have hpasses := ((hstart.pass Script.operator ⟨[], []⟩ t
    (fun label => if label = "data_2" then some "enable_mlag" else none) hconfigure).pass
    Script.operator ⟨[true, true], []⟩ t (fun _ => none) hdeconfigure).pass
    Script.operator ⟨[], []⟩ t (fun _ => none) hconfigure
  obtain ⟨-, -, -, hfirst⟩ := mlag_calls_follow_state hpasses "data_1"
  obtain ⟨-, -, -, hsecond⟩ := mlag_calls_follow_state hpasses "data_2"
  exact ⟨_, _, hpasses, by decide +kernel, by decide +kernel, hfirst, hsecond⟩

end Recording

end SwitchFabric
