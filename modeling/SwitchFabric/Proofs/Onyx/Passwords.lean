import SwitchFabric.Proofs.Exchanges
import SwitchFabric.Proofs.Onyx.Dialogues

/-!
# Passwords are not shown

A password is in the environment of the commands that log in with it, and nowhere else. Where two passwords make no
difference to the switches, the transcripts of two drivers that differ in nothing else show the same answers to calls,
the same failures with their messages, the same command lines that are executed, and the same commands that the switches
run (`password_unseen`).
-/

namespace SwitchFabric

/-- A command line that was executed, its environment, and what came of it. -/
structure Execution where
  line : String
  environment : Shell.Environment
  result : Except SwitchError String

/-- The same with a password in the environment. -/
def Execution.under (password : String) (x : Execution) : Execution :=
  { x with environment := [(Machine.passwordVariable, password)] }

/-- The same login under another password. -/
def RemoteRun.under (password : String) (r : RemoteRun) : RemoteRun := { r with password := some password }

/-- Log in with a password from now on. -/
def SshLogin.withPassword (l : SshLogin) (password : String) : SshLogin := { l with password := some password }

/-- The same access, with a password. -/
def AccessInfo.withPassword (a : AccessInfo) (password : String) : AccessInfo := { a with password := some password }

variable {ν : Type}

/-- What is answered to a login does not depend on the password. -/
def Network.Blind (net : Network ν) : Prop :=
  ∀ (r : RemoteRun) p q s, net.answer (r.under p) s = net.answer (r.under q) s

/-- Tables tell commands and logins apart only. -/
theorem ReplyRule.blind_network : ReplyRule.network.Blind := by
  intro r p q rules
  show ReplyRule.answer (r.under p) rules = ReplyRule.answer (r.under q) rules
  induction rules with
  | nil => rfl
  | cons rule rules ih =>
    rw [ReplyRule.answer, ReplyRule.answer, ih]
    rfl

namespace Onyx

variable {α : Type}

/-- The command lines that a login makes of a dialogue. -/
def Dialogue.executions (net : Network ν) (l : SshLogin) : Dialogue α → Machine ν → List Execution
  | done _, _ => []
  | run c next, m =>
    let line := l.commandLine (remote c)
    let (result, m) := Shell.output (Machine.programs net) line l.environment m
    ⟨line, l.environment, result⟩ :: executions net l (next result) m

/-- All that there is to see of calls that were made: what came of them, the command lines that were executed and the
logins that they made, and how the files and the network are left. -/
structure Transcript (ν : Type) where
  answers : List Answer
  executions : List Execution
  logins : List RemoteRun
  files : Files
  network : ν

/-- The same transcript with a password in the environment. -/
def Transcript.under (password : String) (s : Transcript ν) : Transcript ν :=
  { s with
    executions := s.executions.map (·.under password)
    logins := s.logins.map (·.under password) }

/-- The transcript of a driver's calls. A driver that collects executes nothing. -/
def Driver.transcript (net : Network ν) (d : Driver) (cs : List Call) (m : Machine ν) : Transcript ν :=
  let (results, ended) := d.answers net cs m
  let executions := match d.delivery with
    | .ssh l => (Dialogue.calls d.host cs).executions net l m
    | .file _ => []
  ⟨results, executions, ended.sent.drop m.sent.length, ended.files, ended.network⟩

/-! ## One command -/

/-- Machines that differ in what was sent from them only. -/
structure Alike (m n : Machine ν) : Prop where
  files : m.files = n.files
  network : m.network = n.network

theorem Alike.refl (m : Machine ν) : Alike m m := ⟨rfl, rfl⟩

variable {net : Network ν} {host : String} {l : SshLogin} {p q : String}

theorem hasNul_withPassword (hp : Shell.hasNul p = false) :
    (l.withPassword p).hasNul = (Shell.hasNul l.userid || Shell.hasNul l.host) := by
  simp [SshLogin.hasNul, SshLogin.withPassword, hp]

theorem commandLine_withPassword (c : String) :
    (l.withPassword q).commandLine c = (l.withPassword p).commandLine c := rfl

theorem command_withPassword (hp : Shell.hasNul p = false) (c : String) (m : Machine ν) :
    (sender host (l.withPassword p)).command net c m =
      if (Shell.hasNul l.userid || Shell.hasNul l.host) || Shell.hasNul (remote c) then
        (.error (.shellExec ((l.withPassword p).commandLine (remote c)) "nul byte found in provided data"), m)
      else
        let said := Machine.logIn net ((l.withPassword p).remoteRun (remote c)) m
        ((l.withPassword p).outcome (remote c) said.1, said.2) := by
  rw [← hasNul_withPassword hp]
  exact Delivery.send_ssh_eq net (l.withPassword p) (remote c) m

/-- A command comes to the same with both passwords. -/
theorem alike_command (host : String) (l : SshLogin) (hnet : net.Blind) (hp : Shell.hasNul p = false)
    (hq : Shell.hasNul q = false) {m n : Machine ν} (h : Alike m n) (c : String) :
    ∃ result m' n' rs,
      (sender host (l.withPassword p)).command net c m = (result, m') ∧
      (sender host (l.withPassword q)).command net c n = (result, n') ∧
      Alike m' n' ∧ m'.sent = m.sent ++ rs ∧ n'.sent = n.sent ++ rs.map (·.under q) := by
  rw [command_withPassword hp, command_withPassword hq, commandLine_withPassword]
  split
  · exact ⟨_, m, n, [], rfl, rfl, h, (List.append_nil _).symm, (List.append_nil _).symm⟩
  · have hanswer : net.answer ((l.withPassword q).remoteRun (remote c)) n.network =
        net.answer ((l.withPassword p).remoteRun (remote c)) m.network := by
      rw [h.network]
      exact hnet ((l.withPassword p).remoteRun (remote c)) q p n.network
    refine ⟨_, _, (Machine.logIn net ((l.withPassword q).remoteRun (remote c)) n).2,
      [(l.withPassword p).remoteRun (remote c)], rfl, ?_, ⟨h.files, ?_⟩, rfl, rfl⟩
    · simp only [Machine.logIn, hanswer]
      rfl
    · simp only [Machine.logIn, hanswer]

/-! ## Dialogues -/

/-- What is left behind, and what there is to see, when a dialogue is led with one password and with another. -/
structure SameTranscript (s : Dialogue α) (net : Network ν) (host : String) (l : SshLogin) (p q : String)
    (m n : Machine ν) : Prop where
  result : (s.play net (sender host (l.withPassword p)) m).1 = (s.play net (sender host (l.withPassword q)) n).1
  alike : Alike (s.play net (sender host (l.withPassword p)) m).2 (s.play net (sender host (l.withPassword q)) n).2
  executions : s.executions net (l.withPassword q) n = (s.executions net (l.withPassword p) m).map (·.under q)
  sent : ∃ rs, (s.play net (sender host (l.withPassword p)) m).2.sent = m.sent ++ rs ∧
    (s.play net (sender host (l.withPassword q)) n).2.sent = n.sent ++ rs.map (·.under q)

/-- By induction on the dialogue: a command comes to the same, so that the rest of the dialogue is the same. -/
theorem sameTranscript (host : String) (l : SshLogin) (hnet : net.Blind) (hp : Shell.hasNul p = false)
    (hq : Shell.hasNul q = false) (s : Dialogue α) {m n : Machine ν} (h : Alike m n) :
    SameTranscript s net host l p q m n := by
  induction s generalizing m n with
  | done a => exact ⟨rfl, h, rfl, [], (List.append_nil _).symm, (List.append_nil _).symm⟩
  | run c next ih =>
    obtain ⟨result, m', n', rs, hm, hn, h', hsent, hsent'⟩ := alike_command host l hnet hp hq h c
    obtain ⟨hresult, halike, hexecutions, rs', hrest, hrest'⟩ := ih result h'
    have hplay : (Dialogue.run c next).play net (sender host (l.withPassword p)) m =
        (next result).play net (sender host (l.withPassword p)) m' := by rw [Dialogue.play, hm]
    have hplay' : (Dialogue.run c next).play net (sender host (l.withPassword q)) n =
        (next result).play net (sender host (l.withPassword q)) n' := by rw [Dialogue.play, hn]
    refine ⟨?_, ?_, ?_, rs ++ rs', ?_, ?_⟩
    · rw [hplay, hplay', hresult]
    · rw [hplay, hplay']
      exact halike
    · have hexecution : Shell.output (Machine.programs net) ((l.withPassword p).commandLine (remote c))
          (l.withPassword p).environment m = (result, m') := hm
      have hexecution' : Shell.output (Machine.programs net) ((l.withPassword q).commandLine (remote c))
          (l.withPassword q).environment n = (result, n') := hn
      rw [Dialogue.executions, Dialogue.executions, hexecution, hexecution']
      exact congrArg _ hexecutions
    · rw [hplay, hrest, hsent, List.append_assoc]
    · rw [hplay', hrest', hsent', List.map_append, List.append_assoc]

theorem transcript_sender (l : SshLogin) (cs : List Call) (m : Machine ν) :
    (sender host l).transcript net cs m =
      let ended := (Dialogue.calls host cs).play net (sender host l) m
      ⟨ended.1, (Dialogue.calls host cs).executions net l m, ended.2.sent.drop m.sent.length, ended.2.files,
        ended.2.network⟩ := by
  rw [Dialogue.play_calls]
  rfl

theorem transcript_withPassword (hnet : net.Blind) (hp : Shell.hasNul p = false) (hq : Shell.hasNul q = false)
    (cs : List Call) (m : Machine ν) :
    (sender host (l.withPassword q)).transcript net cs m =
      ((sender host (l.withPassword p)).transcript net cs m).under q := by
  obtain ⟨hresult, halike, hexecutions, rs, hsent, hsent'⟩ :=
    sameTranscript host l hnet hp hq (Dialogue.calls host cs) (Alike.refl m)
  rw [transcript_sender, transcript_sender]
  simp only [Transcript.under, hresult, hexecutions, halike.files, halike.network, hsent, hsent', List.drop_left]

theorem ofAccess_withPassword {a : AccessInfo} (ha : a.mode = .active) (password : String) :
    Delivery.ofAccess (a.withPassword password) =
      match a.userid with
      | some userid => .ok (.ssh (SshLogin.withPassword ⟨a.host, userid, none⟩ password))
      | none => .error (.missingCredentials a.host) := by
  obtain ⟨label, vendor, host, userid, old, mode, commandFile⟩ := a
  obtain rfl : mode = .active := ha
  rfl

/-- Two transcripts of an active driver with different passwords differ in the passwords that the environment holds, and
in nothing else. -/
theorem password_unseen (hnet : net.Blind) {a : AccessInfo} (ha : a.mode = .active) (hp : Shell.hasNul p = false)
    (hq : Shell.hasNul q = false) (cs : List Call) (m : Machine ν) :
    (Driver.ofAccess (a.withPassword q)).map (·.transcript net cs m) =
      (Driver.ofAccess (a.withPassword p)).map fun d => (d.transcript net cs m).under q := by
  rw [Driver.ofAccess, Driver.ofAccess, ofAccess_withPassword ha, ofAccess_withPassword ha]
  cases a.userid with
  | none => rfl
  | some userid => exact congrArg Except.ok (transcript_withPassword hnet hp hq cs m)

/-- A switch that does not take the command that enables MLAG. -/
theorem password_unseen_refusal :
    let a : AccessInfo := ⟨"data_1", vendor, "192.168.5.20", some "admin", none, .active, none⟩
    let l : SshLogin := ⟨"192.168.5.20", "admin", none⟩
    let m : Machine (List ReplyRule) := ⟨.empty, [⟨"no mlag", none, [.failed "% Unknown command" 1]⟩], []⟩
    ReplyRule.network.Blind ∧ a.mode = .active ∧ Shell.hasNul "secret" = false ∧ Shell.hasNul "guess" = false ∧
      (Driver.ofAccess (a.withPassword "guess")).map (·.transcript ReplyRule.network [.act .enableMlag] m) =
        ((Driver.ofAccess (a.withPassword "secret")).map fun d =>
          (d.transcript ReplyRule.network [.act .enableMlag] m).under "guess") ∧
      ((sender a.host (l.withPassword "secret")).transcript ReplyRule.network [.act .enableMlag] m).answers =
        [.error (.commandFailed ((l.withPassword "guess").commandLine (remote enableMlag)) 1 "% Unknown command")] := by
  intro a l m
  have hp : Shell.hasNul "secret" = false := by decide
  have hq : Shell.hasNul "guess" = false := by decide
  refine ⟨ReplyRule.blind_network, rfl, hp, hq, password_unseen ReplyRule.blind_network rfl hp hq _ m, ?_⟩
  have hanswers (d : Driver) : (d.transcript ReplyRule.network [.act .enableMlag] m).answers =
      [(d.command ReplyRule.network enableMlag m).1.map fun _ => none] := by
    rw [Driver.transcript, Driver.answers, Driver.answer, Driver.act, moves, Driver.run, Driver.move, Driver.commands]
    rcases d.command ReplyRule.network enableMlag m with ⟨_ | shown, m'⟩ <;> rfl
  rw [hanswers, command_withPassword hp]
  decide +kernel

end Onyx

end SwitchFabric
