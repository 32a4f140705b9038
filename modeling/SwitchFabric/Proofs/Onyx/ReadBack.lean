import SwitchFabric.Proofs.Onyx.Exchanges

/-!
# Reading back

Six calls check what they did: they read the state of the switch back after the commands that should change it. Such a
call is a list of steps (`checkedSteps`), which are carried out in order up to the first that fails (`Carried`). It ends
well just if every command was taken and every state that was read back is the one asked for (`read_back_exact`).
-/

namespace SwitchFabric.Onyx

open Shell (printedText)

variable {ν : Type} {net : Network ν} {host : String} {l : SshLogin}

/-! ## Steps -/

/-- What is asked of the state that is read back. -/
inductive Asked where
  | vlans (shows : List Char → Prop)
  /-- The port must have an entry. -/
  | port (number : Nat) (shows : PortState → Prop)

namespace Asked

/-- The command whose table is read. -/
def query : Asked → String
  | vlans _ => showVlan
  | port .. => showSwitchport

/-- The table shows what is asked for. -/
def Shown (table : List Char) : Asked → Prop
  | vlans shows => shows table
  | port number shows => ∃ s, (readPorts table).get? number = some s ∧ shows s

end Asked

/-- A command that is sent, or a state that is read back, with the reason for a failure. -/
inductive CallStep where
  | send (command : String)
  | readBack (asked : Asked) (failure : String)

namespace CallStep

/-- What the switch runs. -/
def command : CallStep → String
  | send c => c
  | readBack asked _ => asked.query

/-- The answer lets the call go on. -/
def Passes (reply : Shell.Output) : CallStep → Prop
  | send _ => reply.code = 0
  | readBack asked _ => reply.code = 0 ∧ asked.Shown (printedText reply.out).toList

/-- The answer ends the call with an error. -/
inductive Fails (host : String) (l : SshLogin) (reply : Shell.Output) : CallStep → SwitchError → Prop where
  | refused (step : CallStep) : reply.code ≠ 0 → Fails host l reply step (l.refused (remote step.command) reply)
  | noEntry {number : Nat} {shows : PortState → Prop} {failure : String} : reply.code = 0 →
    (readPorts (printedText reply.out).toList).get? number = none →
    Fails host l reply (readBack (.port number shows) failure)
      (.unexpectedOutput showSwitchport ("no entry for port " ++ Text.decimal number))
  | otherState {number : Nat} {shows : PortState → Prop} {failure : String} {s : PortState} : reply.code = 0 →
    (readPorts (printedText reply.out).toList).get? number = some s → ¬ shows s →
    Fails host l reply (readBack (.port number shows) failure) (.verification host failure)
  | otherVlans {shows : List Char → Prop} {failure : String} : reply.code = 0 →
    ¬ shows (printedText reply.out).toList →
    Fails host l reply (readBack (.vlans shows) failure) (.verification host failure)

end CallStep

/-- Steps are carried out in order, one exchange for each. The first that fails is the last that is carried out. -/
inductive Carried (host : String) (l : SshLogin) : List CallStep → List Exchange → Except SwitchError Unit → Prop where
  | done : Carried host l [] [] (.ok ())
  | pass {step : CallStep} {steps : List CallStep} {reply : Shell.Output} {es : List Exchange}
    {result : Except SwitchError Unit} : step.Passes reply → Carried host l steps es result →
    Carried host l (step :: steps) (⟨l.remoteRun (remote step.command), reply⟩ :: es) result
  | fail {step : CallStep} (steps : List CallStep) {reply : Shell.Output} {e : SwitchError} :
    step.Fails host l reply e → Carried host l (step :: steps) [⟨l.remoteRun (remote step.command), reply⟩] (.error e)

/-- A line starts with the number of the VLAN. -/
def VlanShown (v : VlanId) (table : List Char) : Prop :=
  ∃ line ∈ Text.lines table, (Text.words line).head? = some v.toText.toList

/-- What the switch calls the modes. -/
def ModeShown (mode : SwitchportMode) (s : PortState) : Prop :=
  match mode with
  | .access => s.mode = "access"
  | .trunk => s.mode = "hybrid" ∨ s.mode = "trunk"

/-- The move that carries out a step. -/
inductive Performs : Move → CallStep → Prop where
  | send (c : String) : Performs (.send c) (.send c)
  | vlan (v : VlanId) (failure : String) :
    Performs (.expect (.vlan v true) failure) (.readBack (.vlans (VlanShown v)) failure)
  | noVlan (v : VlanId) (failure : String) :
    Performs (.expect (.vlan v false) failure) (.readBack (.vlans fun table => ¬ VlanShown v table) failure)
  | mode (port : Nat) (mode : SwitchportMode) (failure : String) :
    Performs (.expect (.mode port mode) failure) (.readBack (.port port (ModeShown mode)) failure)
  | allowed (port : Nat) (v : VlanId) (failure : String) :
    Performs (.expect (.allowed port v true) failure)
      (.readBack (.port port fun s => v.number ∈ s.allowedVlans) failure)
  | forbidden (port : Nat) (v : VlanId) (failure : String) :
    Performs (.expect (.allowed port v false) failure)
      (.readBack (.port port fun s => v.number ∉ s.allowedVlans) failure)

theorem performs_sendAll (cs : List String) : List.Forall₂ Performs (sendAll cs) (cs.map .send) := by
  induction cs with
  | nil => exact .nil
  | cons c cs ih => exact .cons (.send c) ih

theorem vlanListed_iff (table : List Char) (v : VlanId) : vlanListed table v = true ↔ VlanShown v table := by
  simp [vlanListed, VlanShown]

theorem isInMode_iff (mode : SwitchportMode) (s : PortState) : s.isInMode mode = true ↔ ModeShown mode s := by
  cases mode <;> simp [PortState.isInMode, ModeShown]

/-- What comes of an expectation when its table is there: it is met, or it is why the step fails. -/
def Judged (host : String) (l : SshLogin) (e : Expectation) (failure : String) (step : CallStep)
    (reply : Shell.Output) : Prop :=
  e.holds (printedText reply.out) = .ok true ∧ step.Passes reply ∨
    e.holds (printedText reply.out) = .ok false ∧ step.Fails host l reply (.verification host failure) ∨
    ∃ why, e.holds (printedText reply.out) = .error why ∧ step.Fails host l reply why

theorem judged_vlans {e : Expectation} (met : List Char → Bool) {shows : List Char → Prop} {reply : Shell.Output}
    (hcode : reply.code = 0) (hholds : ∀ shown, e.holds shown = .ok (met shown.toList))
    (hmet : ∀ table, met table = true ↔ shows table) (failure : String) :
    Judged host l e failure (.readBack (.vlans shows) failure) reply := by
  have hholds := hholds (printedText reply.out)
  cases h : met (printedText reply.out).toList with
  | true => exact .inl ⟨by rw [hholds, h], hcode, (hmet _).1 h⟩
  | false =>
    have hshows : ¬ shows (printedText reply.out).toList := by rw [← hmet, h]; exact Bool.false_ne_true
    exact .inr (.inl ⟨by rw [hholds, h], .otherVlans hcode hshows⟩)

theorem judged_port {e : Expectation} {number : Nat} (met : PortState → Bool) {shows : PortState → Prop}
    {reply : Shell.Output} (hcode : reply.code = 0)
    (hholds : ∀ shown, e.holds shown = (Expectation.portState shown number).map met)
    (hmet : ∀ s, met s = true ↔ shows s) (failure : String) :
    Judged host l e failure (.readBack (.port number shows) failure) reply := by
  have hholds := hholds (printedText reply.out)
  rw [Expectation.portState] at hholds
  cases hentry : (readPorts (printedText reply.out).toList).get? number with
  | none =>
    rw [hentry] at hholds
    exact .inr (.inr ⟨_, hholds, .noEntry hcode hentry⟩)
  | some s =>
    rw [hentry] at hholds
    cases h : met s with
    | true => exact .inl ⟨hholds.trans (congrArg Except.ok h), hcode, s, hentry, (hmet s).1 h⟩
    | false =>
      have hshows : ¬ shows s := by rw [← hmet, h]; exact Bool.false_ne_true
      exact .inr (.inl ⟨hholds.trans (congrArg Except.ok h), .otherState hcode hentry hshows⟩)

theorem Performs.judged {e : Expectation} {failure : String} {step : CallStep} (h : Performs (.expect e failure) step)
    {reply : Shell.Output} (hcode : reply.code = 0) :
    step.command = e.query ∧ Judged host l e failure step reply := by
  cases h with
  | vlan v =>
    exact ⟨rfl, judged_vlans (fun table => vlanListed table v == true) hcode (fun _ => rfl)
      (fun table => by rw [beq_iff_eq, vlanListed_iff]) failure⟩
  | noVlan v =>
    exact ⟨rfl, judged_vlans (fun table => vlanListed table v == false) hcode (fun _ => rfl)
      (fun table => by rw [beq_iff_eq, ← vlanListed_iff, Bool.not_eq_true]) failure⟩
  | mode port mode => exact ⟨rfl, judged_port (·.isInMode mode) hcode (fun _ => rfl) (isInMode_iff mode) failure⟩
  | allowed port v =>
    exact ⟨rfl, judged_port (fun s => s.allowedVlans.contains v.number == true) hcode (fun _ => rfl)
      (fun s => by simp) failure⟩
  | forbidden port v =>
    exact ⟨rfl, judged_port (fun s => s.allowedVlans.contains v.number == false) hcode (fun _ => rfl)
      (fun s => by simp) failure⟩

variable (net)

/-- A step is one exchange, which it passes or fails. -/
theorem performed_move (host : String) (hnul : l.hasNul = false) {move : Move} {step : CallStep}
    (h : Performs move step) (hsend : ∀ c, move = .send c → Shell.hasNul c = false) (m : Machine ν) :
    ∃ reply m', Exchanged net m m' [⟨l.remoteRun (remote step.command), reply⟩] ∧
      (step.Passes reply ∧ (sender host l).move net move m = (.ok (), m') ∨
        ∃ e, step.Fails host l reply e ∧ (sender host l).move net move m = (.error e, m')) := by
  cases move with
  | send c =>
    obtain rfl : step = .send c := by cases h; rfl
    obtain ⟨reply, m', hsaid, ⟨hcode, hrun⟩ | ⟨hcode, hrun⟩⟩ :=
      Driver.commands_cons_cases net host hnul (hsend c rfl) [] m
    · exact ⟨reply, m', hsaid, .inl ⟨hcode, hrun⟩⟩
    · exact ⟨reply, m', hsaid, .inr ⟨_, .refused (.send c) hcode, hrun⟩⟩
  | expect e failure =>
    obtain ⟨reply, m', hsaid, ⟨hcode, hquery⟩ | ⟨hcode, hquery⟩⟩ :=
      Driver.query_cases net host hnul (query_mem_showCommands e) m
    · obtain ⟨hcommand, hjudged⟩ := h.judged hcode
      rw [← hcommand] at hsaid
      rw [Driver.move, hquery]
      dsimp only
      rcases hjudged with ⟨hholds, hpass⟩ | ⟨hholds, hfail⟩ | ⟨why, hholds, hfail⟩ <;> rw [hholds]
      · exact ⟨reply, m', hsaid, .inl ⟨hpass, rfl⟩⟩
      · exact ⟨reply, m', hsaid, .inr ⟨_, hfail, rfl⟩⟩
      · exact ⟨reply, m', hsaid, .inr ⟨why, hfail, rfl⟩⟩
    · have hcommand : step.command = e.query := by cases h <;> rfl
      rw [← hcommand] at hsaid hquery
      rw [Driver.move, ← hcommand, hquery]
      exact ⟨reply, m', hsaid, .inr ⟨_, .refused step hcode, rfl⟩⟩
  | takeDownMlag => cases h

/-- By induction on the moves: the next is made if the step was passed. -/
theorem carried_run (host : String) (hnul : l.hasNul = false) {ms : List Move} {steps : List CallStep}
    (h : List.Forall₂ Performs ms steps) (hsend : ∀ c, .send c ∈ ms → Shell.hasNul c = false) (m : Machine ν) :
    ∃ es, Exchanged net m ((sender host l).run net ms m).2 es ∧
      Carried host l steps es ((sender host l).run net ms m).1 := by
  induction h generalizing m with
  | nil => exact ⟨[], .nil m, .done⟩
  | @cons move step ms steps hmove hms ih =>
    obtain ⟨reply, m', hsaid, ⟨hpass, hrun⟩ | ⟨e, hfail, hrun⟩⟩ :=
      performed_move net host hnul hmove (fun c hc => hsend c (hc ▸ List.mem_cons_self)) m
    · obtain ⟨es, hes, hcarried⟩ := ih (fun c hc => hsend c (List.mem_cons_of_mem _ hc)) m'
      rw [Driver.run, hrun]
      exact ⟨_, hsaid.trans hes, .pass hpass hcarried⟩
    · rw [Driver.run, hrun]
      exact ⟨_, hsaid, .fail steps hfail⟩

end SwitchFabric.Onyx
