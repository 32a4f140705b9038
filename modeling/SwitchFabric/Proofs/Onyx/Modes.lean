import SwitchFabric.Onyx.Driver
import SwitchFabric.Proofs.Onyx.Commands

/-!
# Both modes of the driver send the same commands

What a driver that sends has run on the switch, and what a driver that collects has put into its file, come from one
list, the commands of its calls (`commandsOf`). The driver that collects has put in that list (`collected_calls`). The
one that sends has run the lines of that list, with lines that run show commands in between (`ran_calls`), if all calls
end well and none of them takes MLAG down.
-/

namespace SwitchFabric.Onyx

namespace Driver

variable {ν : Type} (net : Network ν) (d : Driver)

/-- Make a call, whatever it answers. -/
def call : Call → Machine ν → Except SwitchError Unit × Machine ν
  | .act a, m => d.act net a m
  | .isMlagConfigured, m =>
    let (answer, m) := d.isMlagConfigured net m
    (answer.map fun _ => (), m)

/-- Make calls up to the first that fails. -/
def calls : List Call → Machine ν → Except SwitchError Unit × Machine ν
  | [], m => (.ok (), m)
  | c :: cs, m =>
    match d.call net c m with
    | (.ok (), m) => calls cs m
    | (.error e, m) => (.error e, m)

end Driver

/-- The commands that read the state of a switch. -/
def showCommands : List String := [showVlan, showSwitchport, showMlag, showChannels]

theorem query_mem_showCommands (e : Expectation) : e.query ∈ showCommands := by
  cases e <;> simp [Expectation.query, showCommands]

theorem plain_of_mem_showCommands {c : String} (h : c ∈ showCommands) : Shell.Plain c := by
  revert c
  decide

theorem hasNul_of_mem_showCommands {c : String} (h : c ∈ showCommands) : Shell.hasNul c = false := by
  revert c
  decide

theorem Sendable.notMem_showCommands {c : String} (h : Sendable c) : c ∉ showCommands := by
  have hshow : ∀ c ∈ showCommands, ¬ Sendable c := by decide
  exact fun hm => hshow c hm h

/-! ## Collecting -/

variable {ν : Type} {m m' m'' : Machine ν} {cs ds : List String}

/-- Between two states of the machine, lines were put at the end of the file at a place, and nothing else was done. -/
structure Collected (p : Place) (m m' : Machine ν) (cs : List String) : Prop where
  network : m'.network = m.network
  sent : m'.sent = m.sent
  directories : m'.files.directories = m.files.directories
  bytes : ∀ q, m'.files.bytesAt q =
    if q.toText = p.toText then m.files.bytesAt p ++ cs.flatMap fun c => Text.encode (c ++ "\n")
    else m.files.bytesAt q

theorem Collected.nil (p : Place) (m : Machine ν) : Collected p m m [] := by
  refine ⟨rfl, rfl, rfl, fun q => ?_⟩
  split
  · next h => rw [List.flatMap_nil, List.append_nil, Files.bytesAt, Files.at?, h, Files.bytesAt, Files.at?]
  · rfl

theorem Collected.trans {p : Place} (h : Collected p m m' cs) (h' : Collected p m' m'' ds) :
    Collected p m m'' (cs ++ ds) := by
  refine ⟨h'.network.trans h.network, h'.sent.trans h.sent, h'.directories.trans h.directories, fun q => ?_⟩
  rw [h'.bytes, h.bytes, h.bytes, if_pos rfl]
  split
  · rw [List.flatMap_append, List.append_assoc]
  · rfl

/-- A driver that collects in a file. -/
def collector (host path : String) : Driver := ⟨host, .file path⟩

section

variable (net : Network ν) (host : String) {path : String} {p : Place}

theorem collected_command (h : m.files.Writable path p) (c : String) :
    ((collector host path).command net c m).1 = .ok "" ∧
      Collected p m ((collector host path).command net c m).2 [c] := by
  obtain ⟨files, hsend, hdirectories, hbytes⟩ := Delivery.send_file net h c
  have hcommand : (collector host path).command net c m = (.ok "", { m with files := files }) := hsend
  rw [hcommand]
  exact ⟨rfl, rfl, rfl, hdirectories, by simpa using hbytes⟩

/-- A move collects its command if it has one. -/
theorem collected_move (h : m.files.Writable path p) (move : Move) :
    ((collector host path).move net move m).1 = .ok () ∧
      Collected p m ((collector host path).move net move m).2 move.command?.toList := by
  cases move with
  | send c =>
    obtain ⟨hok, hcollected⟩ := collected_command net host h c
    rw [Driver.move, Driver.commands]
    rcases hcommand : (collector host path).command net c m with ⟨_ | answer, m'⟩
    · rw [hcommand] at hok
      cases hok
    · rw [hcommand] at hcollected
      exact ⟨rfl, hcollected⟩
  | expect e failure => exact ⟨rfl, .nil p m⟩
  | takeDownMlag => exact ⟨rfl, .nil p m⟩

theorem collected_run (h : m.files.Writable path p) (moves : List Move) :
    ((collector host path).run net moves m).1 = .ok () ∧
      Collected p m ((collector host path).run net moves m).2 (moves.filterMap Move.command?) := by
  induction moves generalizing m with
  | nil => exact ⟨rfl, .nil p m⟩
  | cons move rest ih =>
    obtain ⟨hok, hcollected⟩ := collected_move net host h move
    rw [Driver.run]
    rcases hmove : (collector host path).move net move m with ⟨_ | _, m'⟩
    · rw [hmove] at hok
      cases hok
    · rw [hmove] at hcollected
      obtain ⟨hrest, hcollected'⟩ := ih (h.congr hcollected.directories)
      have hcommands : (move :: rest).filterMap Move.command? = move.command?.toList ++ rest.filterMap Move.command? := by
        cases move <;> rfl
      rw [hcommands]
      exact ⟨hrest, hcollected.trans hcollected'⟩

theorem collected_call (h : m.files.Writable path p) (c : Call) :
    ((collector host path).call net c m).1 = .ok () ∧
      Collected p m ((collector host path).call net c m).2 (commandsOf c) := by
  cases c with
  | isMlagConfigured => exact ⟨rfl, .nil p m⟩
  | act a => exact collected_run net host h (moves a)

/-- Collecting puts the commands of all calls at the end of the file. -/
theorem collected_calls (h : m.files.Writable path p) (cs : List Call) :
    ((collector host path).calls net cs m).1 = .ok () ∧
      Collected p m ((collector host path).calls net cs m).2 (cs.flatMap commandsOf) := by
  induction cs generalizing m with
  | nil => exact ⟨rfl, .nil p m⟩
  | cons c cs ih =>
    obtain ⟨hok, hcollected⟩ := collected_call net host h c
    rw [Driver.calls]
    rcases hcall : (collector host path).call net c m with ⟨_ | _, m'⟩
    · rw [hcall] at hok
      cases hok
    · rw [hcall] at hcollected
      obtain ⟨hrest, hcollected'⟩ := ih (h.congr hcollected.directories)
      rw [List.flatMap_cons]
      exact ⟨hrest, hcollected.trans hcollected'⟩

end

/-! ## Sending -/

variable {net : Network ν} {host : String} {l : SshLogin}

/-- Between two states of the machine, commands were run in logins. -/
def Ran (l : SshLogin) (m m' : Machine ν) (cs : List String) : Prop :=
  m'.sent = m.sent ++ cs.map fun c => l.remoteRun (remote c)

theorem Ran.nil (l : SshLogin) (m : Machine ν) : Ran l m m [] := (List.append_nil _).symm

theorem Ran.trans (h : Ran l m m' cs) (h' : Ran l m' m'' ds) : Ran l m m'' (cs ++ ds) := by
  rw [Ran, h', h, List.map_append, List.append_assoc]

/-- A driver that sends by a login. -/
def sender (host : String) (l : SshLogin) : Driver := ⟨host, .ssh l⟩

theorem ran_command {c answer : String} (h : (sender host l).command net c m = (.ok answer, m')) :
    Ran l m m' [c] := by
  have hsend : (Delivery.ssh l).send net (remote c) m = (.ok answer, m') := h
  rw [Delivery.send_ssh net hsend, Ran]
  rfl

/-- A question that is answered is a command that was run. -/
theorem ran_query {c : String} {shown : Option String} (h : (sender host l).query net c m = (.ok shown, m')) :
    Ran l m m' [c] := by
  rw [Driver.query, if_neg (show ¬ (sender host l).delivery.isPassive = true by simp [sender, Delivery.isPassive])] at h
  rcases hcommand : (sender host l).command net c m with ⟨_ | answer, m''⟩ <;> rw [hcommand] at h
  · cases h
  · cases h
    exact ran_command hcommand

/-- The commands that a move runs, besides those that take MLAG down. -/
def Move.runs : Move → List String
  | .send c => [c]
  | .expect e _ => [e.query]
  | .takeDownMlag => []

theorem ran_move {move : Move} (hmove : move ≠ .takeDownMlag) (h : (sender host l).move net move m = (.ok (), m')) :
    Ran l m m' move.runs := by
  cases move with
  | takeDownMlag => exact absurd rfl hmove
  | send c =>
    rw [Driver.move, Driver.commands] at h
    rcases hcommand : (sender host l).command net c m with ⟨_ | answer, m''⟩ <;> rw [hcommand] at h
    · cases h
    · cases h
      exact ran_command hcommand
  | expect e failure =>
    rw [Driver.move] at h
    rcases hquery : (sender host l).query net e.query m with ⟨_ | shown, m''⟩ <;> rw [hquery] at h
    · cases h
    · have hran := ran_query hquery
      cases shown with
      | none =>
        cases h
        exact hran
      | some shown =>
        dsimp only at h
        split at h <;> cases h
        exact hran

theorem ran_run {moves : List Move} (hmoves : .takeDownMlag ∉ moves)
    (h : (sender host l).run net moves m = (.ok (), m')) : Ran l m m' (moves.flatMap Move.runs) := by
  induction moves generalizing m with
  | nil =>
    cases h
    exact .nil l _
  | cons move rest ih =>
    obtain ⟨hne, hrest⟩ := List.ne_and_not_mem_of_not_mem_cons hmoves
    rw [Driver.run] at h
    rcases hmove : (sender host l).move net move m with ⟨_ | _, m''⟩ <;> rw [hmove] at h
    · cases h
    · exact (ran_move hne.symm hmove).trans (ih hrest h)

/-- The commands that a call runs, besides those that take MLAG down. -/
def runsOf : Call → List String
  | .act a => (moves a).flatMap Move.runs
  | .isMlagConfigured => [showMlag]

theorem takeDownMlag_notMem_moves {a : Action} (h : a ≠ .deconfigureMlag) : .takeDownMlag ∉ moves a := by
  cases a <;> simp_all [moves, createVlanMoves, deleteVlanMoves, setModeMoves, allowVlanMoves, forbidVlanMoves, sendAll]

theorem ran_call {c : Call} (hc : c ≠ .act .deconfigureMlag) (h : (sender host l).call net c m = (.ok (), m')) :
    Ran l m m' (runsOf c) := by
  cases c with
  | act a => exact ran_run (takeDownMlag_notMem_moves fun ha => hc (ha ▸ rfl)) h
  | isMlagConfigured =>
    rw [Driver.call, Driver.isMlagConfigured] at h
    rcases hquery : (sender host l).query net showMlag m with ⟨_ | shown, m''⟩ <;> rw [hquery] at h
    · cases h
    · cases h
      exact ran_query hquery

/-- Sending runs the commands of all calls, if they all end well. -/
theorem ran_calls {calls : List Call} (hcalls : .act .deconfigureMlag ∉ calls)
    (h : (sender host l).calls net calls m = (.ok (), m')) : Ran l m m' (calls.flatMap runsOf) := by
  induction calls generalizing m with
  | nil =>
    cases h
    exact .nil l _
  | cons c calls ih =>
    obtain ⟨hne, hrest⟩ := List.ne_and_not_mem_of_not_mem_cons hcalls
    rw [Driver.calls] at h
    rcases hcall : (sender host l).call net c m with ⟨_ | _, m''⟩ <;> rw [hcall] at h
    · cases h
    · exact (ran_call hne.symm hcall).trans (ih hrest h)

/-! ## Both -/

/-- The line runs no show command. -/
def isNoShow (line : String) : Bool := !(showCommands.map remote).contains line

theorem isNoShow_of_sendable {c : String} (h : Sendable c) : isNoShow (remote c) = true := by
  simp only [isNoShow, Bool.not_eq_true', List.contains_eq_mem, decide_eq_false_iff_not, List.mem_map, not_exists, not_and]
  exact fun d hd heq => h.notMem_showCommands (remote_inj heq ▸ hd)

theorem isNoShow_of_mem {c : String} (h : c ∈ showCommands) : isNoShow (remote c) = false := by
  simp only [isNoShow, Bool.not_eq_false', List.contains_iff_mem]
  exact List.mem_map_of_mem h

theorem filter_runs {moves : List Move} (h : ∀ c, .send c ∈ moves → Sendable c) :
    ((moves.flatMap Move.runs).map remote).filter isNoShow = (moves.filterMap Move.command?).map remote := by
  induction moves with
  | nil => rfl
  | cons move rest ih =>
    have hrest := ih fun c hc => h c (List.mem_cons_of_mem _ hc)
    rw [List.flatMap_cons, List.map_append, List.filter_append, hrest, List.filterMap_cons]
    cases move with
    | send c => simp [Move.runs, Move.command?, isNoShow_of_sendable (h c List.mem_cons_self)]
    | expect e failure => simp [Move.runs, Move.command?, isNoShow_of_mem (query_mem_showCommands e)]
    | takeDownMlag => rfl

/-- Without show commands, a call runs the commands that it collects. -/
theorem filter_runsOf (c : Call) : ((runsOf c).map remote).filter isNoShow = (commandsOf c).map remote := by
  cases c with
  | isMlagConfigured =>
    have hshow : isNoShow (remote showMlag) = false := isNoShow_of_mem (by decide)
    simp [runsOf, commandsOf, hshow]
  | act a => exact filter_runs fun c hc => sendable_of_mem_commandsOf (mem_commandsOf.2 hc)

theorem filter_runsOf_calls (calls : List Call) :
    ((calls.flatMap runsOf).map remote).filter isNoShow = (calls.flatMap commandsOf).map remote := by
  induction calls with
  | nil => rfl
  | cons c calls ih => simp [List.flatMap_cons, List.filter_append, filter_runsOf, ih]

theorem plain_of_mem_runsOf {call : Call} {c : String} (h : c ∈ runsOf call) : Shell.Plain c := by
  cases call with
  | isMlagConfigured =>
    rw [List.mem_singleton.1 h]
    decide
  | act a =>
    obtain ⟨move, hmove, hc⟩ := List.mem_flatMap.1 h
    cases move with
    | send d =>
      rw [List.mem_singleton.1 hc]
      exact (sendable_of_mem_commandsOf (mem_commandsOf.2 hmove)).1
    | expect e failure =>
      rw [List.mem_singleton.1 hc]
      exact plain_of_mem_showCommands (query_mem_showCommands e)
    | takeDownMlag => cases hc

/-- Both modes of the driver send the same commands, those that the calls are made of. The driver that collects puts
them at the end of its file, a line each. The driver that sends, if all its calls end well and none of them takes MLAG
down, has the switch run them in order, besides show commands: the shell of the switch reads what it is sent as four
words, of which the last is the command. -/
theorem modes_send_same_commands (a : AccessInfo) (huser : a.userid ≠ none) (calls : List Call)
    (hcalls : .act .deconfigureMlag ∉ calls) :
    ∃ active passive, Driver.ofAccess { a with mode := .active } = .ok active ∧
      Driver.ofAccess { a with mode := .passive } = .ok passive ∧
      (∀ {ν : Type} (net : Network ν) (m : Machine ν) (p : Place), m.files.Writable a.commandFile p →
        (passive.calls net calls m).1 = .ok () ∧
        Collected p m (passive.calls net calls m).2 (calls.flatMap commandsOf)) ∧
      (∀ {ν : Type} (net : Network ν) (m : Machine ν), (active.calls net calls m).1 = .ok () →
        ∃ runs : List RemoteRun, (active.calls net calls m).2.sent = m.sent ++ runs ∧
          (runs.map (·.command)).filter isNoShow = (calls.flatMap commandsOf).map remote) ∧
      ∀ c ∈ calls.flatMap commandsOf, Shell.Plain c ∧
        Shell.Splits (remote c).toList ["cli", "enable", "configure terminal", c] := by
  obtain ⟨user, huser⟩ := Option.ne_none_iff_exists'.1 huser
  refine ⟨sender a.host ⟨a.host, user, a.password⟩, collector a.host a.commandFile, ?_, rfl,
    fun net m p h => collected_calls net _ h calls, fun net m h => ?_, fun c hc => ?_⟩
  · simp [Driver.ofAccess, Delivery.ofAccess, huser, Except.map, sender]
  · refine ⟨_, ran_calls hcalls (Prod.ext h rfl), ?_⟩
    rw [List.map_map, ← filter_runsOf_calls]
    refine congrArg _ (List.map_congr_left fun c hc => ?_)
    obtain ⟨call, -, hc⟩ := List.mem_flatMap.1 hc
    exact remoteRun_remote _ (plain_of_mem_runsOf hc)
  · obtain ⟨call, -, hc⟩ := List.mem_flatMap.1 hc
    have hplain := (sendable_of_mem_commandsOf hc).1
    exact ⟨hplain, splits_remote hplain⟩

/-- A LAG on a switch that is asked for its MLAG before. -/
theorem modes_send_same_commands_lag :
    let a : AccessInfo := ⟨"data_1", "mellanox", "192.168.5.20", some "admin", none, .active, none⟩
    let calls : List Call := [.isMlagConfigured, .act (.createLagInterface 10)]
    let net : Network Unit := ⟨fun _ s => (.ofCode 0, s)⟩
    let m : Machine Unit := ⟨.empty, (), []⟩
    let commands := ["interface port-channel 10"]
    ∃ active passive, Driver.ofAccess { a with mode := .active } = .ok active ∧
      Driver.ofAccess { a with mode := .passive } = .ok passive ∧
      Collected ⟨false, ["switch_cmds_data_1.txt"]⟩ m (passive.calls net calls m).2 commands ∧
      ((active.calls net calls m).2.sent.map (·.command)).filter isNoShow = commands.map remote := by
  intro a calls net m commands
  have hcalls : calls.flatMap commandsOf = commands := by decide +kernel
  obtain ⟨active, passive, hactive, hpassive, hcollected, hran, -⟩ :=
    modes_send_same_commands a (by decide) calls (by decide)
  rw [hcalls] at hcollected hran
  have hok : (active.calls net calls m).1 = .ok () := by
    obtain rfl : sender "192.168.5.20" ⟨"192.168.5.20", "admin", none⟩ = active := Except.ok.inj hactive
    decide +kernel
  obtain ⟨runs, hsent, hcommands⟩ := hran net m hok
  have hwritable : m.files.Writable a.commandFile ⟨false, ["switch_cmds_data_1.txt"]⟩ := by decide +kernel
  refine ⟨active, passive, hactive, hpassive, (hcollected net m _ hwritable).2, ?_⟩
  rw [hsent]
  exact hcommands

end SwitchFabric.Onyx
