import SwitchFabric.Proofs.Exchanges
import SwitchFabric.Proofs.Onyx.Modes
import SwitchFabric.Registry

/-!
# What a driver says

Whatever a switch answers, a driver has it run nothing but the commands of its moves (`Move.MayRun`), each in a login
(`says_run`). Double quotes protect all of these commands (`plain_of_mayRun`), so that the line that
runs it reaches the switch as it is. Commands end at the first that the switch does not take (`commands_cons_cases`).
-/

namespace SwitchFabric.Onyx

variable {ν : Type} {net : Network ν}

/-- The commands that a move may run. -/
def Move.MayRun : Move → String → Prop
  | .send c, d => d = c
  | .expect e _, d => d = e.query
  | .takeDownMlag, d => d ∈ [showMlag, showChannels] ∨ ∃ link, d ∈ deconfigureMlag link

theorem plain_of_mayRun {a : Action} {move : Move} (hmove : move ∈ moves a) {c : String} (h : move.MayRun c) :
    Shell.Plain c := by
  cases move with
  | send d =>
    obtain rfl : c = d := h
    exact (sendable_of_mem_commandsOf (mem_commandsOf.2 hmove)).1
  | expect e failure =>
    obtain rfl : c = e.query := h
    exact plain_of_mem_showCommands (query_mem_showCommands e)
  | takeDownMlag =>
    rcases h with h | ⟨link, h⟩
    · exact plain_of_mem_showCommands (List.mem_of_mem_tail (List.mem_of_mem_tail h))
    · exact (worded_deconfigureMlag link c h).1.plain

namespace Driver

/-- Between two states of the machine, the driver had commands of one kind run on its switch, and nothing else. -/
def Says (net : Network ν) (d : Driver) (P : String → Prop) (m m' : Machine ν) : Prop :=
  ∃ es, Exchanged net m m' es ∧
    ∀ e ∈ es, ∃ l c, d.delivery = .ssh l ∧ P c ∧ e.run = l.remoteRun (remote c)

variable {d : Driver} {P : String → Prop} {m m' m'' : Machine ν}

theorem Says.nil (m : Machine ν) : d.Says net P m m := ⟨[], .nil m, nofun⟩

theorem Says.trans (h : d.Says net P m m') (h' : d.Says net P m' m'') : d.Says net P m m'' := by
  obtain ⟨es, hes, hruns⟩ := h
  obtain ⟨es', hes', hruns'⟩ := h'
  exact ⟨es ++ es', hes.trans hes', fun e he => (List.mem_append.1 he).elim (hruns e) (hruns' e)⟩

variable (net d)

theorem says_command {c : String} (hc : P c) (m : Machine ν) : d.Says net P m (d.command net c m).2 := by
  obtain ⟨host, l | path⟩ := d
  · show Says net _ P m ((Delivery.ssh l).send net (remote c) m).2
    rw [Delivery.send_ssh_eq]
    split
    · exact .nil m
    · refine ⟨_, .logIn (l.remoteRun (remote c)) m, fun e he => ?_⟩
      rw [List.mem_singleton.1 he]
      exact ⟨l, c, rfl, hc, rfl⟩
  · show Says net _ P m ((Delivery.file path).send net c m).2
    rw [Delivery.send]
    split
    · exact ⟨[], .of_eq rfl rfl, by simp⟩
    · exact .nil m

theorem says_commands {cs : List String} (hcs : ∀ c ∈ cs, P c) (m : Machine ν) :
    d.Says net P m (d.commands net cs m).2 := by
  induction cs generalizing m with
  | nil => exact .nil m
  | cons c cs ih =>
    obtain ⟨hc, hcs⟩ := List.forall_mem_cons.1 hcs
    have hsays := says_command net d hc m
    rw [commands]
    rcases hcommand : d.command net c m with ⟨_ | shown, m'⟩ <;> rw [hcommand] at hsays
    · exact hsays
    · exact hsays.trans (ih hcs m')

theorem says_query {c : String} (hc : P c) (m : Machine ν) : d.Says net P m (d.query net c m).2 := by
  rw [query]
  split
  · exact .nil m
  · have hsays := says_command net d hc m
    rcases hcommand : d.command net c m with ⟨_ | shown, m'⟩ <;> rw [hcommand] at hsays <;> exact hsays

theorem says_isMlagConfigured (hc : P showMlag) (m : Machine ν) : d.Says net P m (d.isMlagConfigured net m).2 := by
  have hsays := says_query net d hc m
  rw [isMlagConfigured]
  rcases hquery : d.query net showMlag m with ⟨_ | shown, m'⟩ <;> rw [hquery] at hsays <;> exact hsays

theorem says_findLink (hmlag : P showMlag) (hchannels : P showChannels) (m : Machine ν) :
    d.Says net P m (d.findLink net m).2 := by
  have hsays := says_query net d hmlag m
  rw [findLink]
  rcases hquery : d.query net showMlag m with ⟨_ | _ | shown, m'⟩ <;> rw [hquery] at hsays
  · exact hsays
  · exact hsays
  · dsimp only
    split
    · exact hsays
    · have hsays' := says_query net d hchannels m'
      rcases hquery' : d.query net showChannels m' with ⟨_ | summary, m''⟩ <;> rw [hquery'] at hsays'
      · exact hsays.trans hsays'
      · dsimp only
        split <;> exact hsays.trans hsays'

theorem says_move {move : Move} (h : ∀ c, move.MayRun c → P c) (m : Machine ν) :
    d.Says net P m (d.move net move m).2 := by
  cases move with
  | send c => exact says_commands net d (List.forall_mem_singleton.2 (h c rfl)) m
  | expect e failure =>
    have hsays := says_query net d (h e.query rfl) m
    rw [Driver.move]
    rcases hquery : d.query net e.query m with ⟨_ | _ | shown, m'⟩ <;> rw [hquery] at hsays
    · exact hsays
    · exact hsays
    · dsimp only
      split <;> exact hsays
  | takeDownMlag =>
    have hsays := says_findLink net d (h showMlag (.inl List.mem_cons_self))
      (h showChannels (.inl (List.mem_cons_of_mem _ List.mem_cons_self))) m
    rw [Driver.move]
    rcases hlink : d.findLink net m with ⟨_ | _ | link, m'⟩ <;> rw [hlink] at hsays
    · exact hsays
    · exact hsays
    · exact hsays.trans (says_commands net d (fun c hc => h c (.inr ⟨link, hc⟩)) m')

/-- What is said in moves are commands that they may run. -/
theorem says_run {ms : List Move} (h : ∀ move ∈ ms, ∀ c, move.MayRun c → P c) (m : Machine ν) :
    d.Says net P m (d.run net ms m).2 := by
  induction ms generalizing m with
  | nil => exact .nil m
  | cons move ms ih =>
    obtain ⟨hmove, hms⟩ := List.forall_mem_cons.1 h
    have hsays := says_move net d hmove m
    rw [run]
    rcases hrun : d.move net move m with ⟨_ | _, m'⟩ <;> rw [hrun] at hsays
    · exact hsays
    · exact hsays.trans (ih hms m')

/-! ## Commands in a row -/

/-- Moves that send commands are the commands. -/
theorem run_sendAll (cs : List String) (m : Machine ν) :
    d.run net (sendAll cs) m = d.commands net cs m := by
  induction cs generalizing m with
  | nil => rfl
  | cons c cs ih =>
    rw [sendAll, List.map_cons, run, move, commands, commands]
    rcases d.command net c m with ⟨_ | shown, m'⟩
    · rfl
    · exact ih m'

/-- A command is one exchange, and its answer decides what comes of it. -/
theorem command_cases (host : String) {l : SshLogin} {c : String} (hnul : l.hasNul = false)
    (hc : Shell.hasNul c = false) (m : Machine ν) :
    ∃ reply m', Exchanged net m m' [⟨l.remoteRun (remote c), reply⟩] ∧
      (sender host l).command net c m = (l.outcome (remote c) reply, m') := by
  have hcommand : (sender host l).command net c m = (Delivery.ssh l).send net (remote c) m := rfl
  refine ⟨_, _, .logIn (l.remoteRun (remote c)) m, ?_⟩
  rw [hcommand, Delivery.send_ssh_eq, hnul, hasNul_remote, hc, Bool.false_or, if_neg Bool.false_ne_true]

/-- A command that is taken is followed by the next one, and one that is not taken is the last. -/
theorem commands_cons_cases (host : String) {l : SshLogin} {c : String} (hnul : l.hasNul = false)
    (hc : Shell.hasNul c = false) (cs : List String) (m : Machine ν) :
    ∃ reply m', Exchanged net m m' [⟨l.remoteRun (remote c), reply⟩] ∧
      (reply.code = 0 ∧ (sender host l).commands net (c :: cs) m = (sender host l).commands net cs m' ∨
        reply.code ≠ 0 ∧ (sender host l).commands net (c :: cs) m = (.error (l.refused (remote c) reply), m')) := by
  obtain ⟨reply, m', hsaid, hcommand⟩ := command_cases net host hnul hc m
  refine ⟨reply, m', hsaid, ?_⟩
  rw [commands, hcommand, SshLogin.outcome]
  by_cases hcode : reply.code = 0
  · exact .inl ⟨hcode, by rw [if_pos hcode]⟩
  · exact .inr ⟨hcode, by rw [if_neg hcode]⟩

/-- A question is one exchange, too. -/
theorem query_cases (host : String) {l : SshLogin} {c : String} (hnul : l.hasNul = false)
    (hc : c ∈ showCommands) (m : Machine ν) :
    ∃ reply m', Exchanged net m m' [⟨l.remoteRun (remote c), reply⟩] ∧
      (reply.code = 0 ∧ (sender host l).query net c m = (.ok (some (Shell.printedText reply.out)), m') ∨
        reply.code ≠ 0 ∧ (sender host l).query net c m = (.error (l.refused (remote c) reply), m')) := by
  have hactive : (sender host l).delivery.isPassive = false := rfl
  obtain ⟨reply, m', hsaid, hcommand⟩ := command_cases net host hnul (hasNul_of_mem_showCommands hc) m
  refine ⟨reply, m', hsaid, ?_⟩
  rw [query, hactive, if_neg Bool.false_ne_true, hcommand, SshLogin.outcome]
  by_cases hcode : reply.code = 0
  · exact .inl ⟨hcode, by rw [if_pos hcode]⟩
  · exact .inr ⟨hcode, by rw [if_neg hcode]⟩

/-- A login with a NUL is not made. -/
theorem command_of_hasNul (host : String) {l : SshLogin} (hnul : l.hasNul = true) (c : String) (m : Machine ν) :
    (sender host l).command net c m =
      (.error (.shellExec (l.commandLine (remote c)) "nul byte found in provided data"), m) := by
  have hcommand : (sender host l).command net c m = (Delivery.ssh l).send net (remote c) m := rfl
  rw [hcommand, Delivery.send_ssh_eq, hnul, Bool.true_or, if_pos rfl]

theorem commands_cons_of_hasNul (host : String) {l : SshLogin} (hnul : l.hasNul = true) (c : String)
    (cs : List String) (m : Machine ν) : ((sender host l).commands net (c :: cs) m).2 = m := by
  rw [commands, command_of_hasNul net host hnul]

end Driver

/-! ## Drivers in a map -/

variable (net : Network ν) {drivers : SortedMap String Driver} {label : String}

theorem ofDrivers_act {d : Driver} (h : drivers.get? label = some d) (a : Action) (m : Machine ν) :
    (Fleet.ofDrivers net drivers).act label a m = d.run net (moves a) m := by
  simp only [Fleet.ofDrivers, h]
  rfl

theorem ofDrivers_act_of_none (h : drivers.get? label = none) (a : Action) (m : Machine ν) :
    (Fleet.ofDrivers net drivers).act label a m = (.ok (), m) := by
  simp only [Fleet.ofDrivers, h]

theorem ofDrivers_query {d : Driver} (h : drivers.get? label = some d) (m : Machine ν) :
    (Fleet.ofDrivers net drivers).isMlagConfigured label m = d.isMlagConfigured net m := by
  simp only [Fleet.ofDrivers, h]

theorem ofDrivers_query_of_none (h : drivers.get? label = none) (m : Machine ν) :
    (Fleet.ofDrivers net drivers).isMlagConfigured label m = (.ok false, m) := by
  simp only [Fleet.ofDrivers, h]

end SwitchFabric.Onyx
