import SwitchFabric.Proofs.Delivery
import SwitchFabric.Proofs.Shell.Literal

/-!
# What is said over the network

Machines on the network are reached by logins only. What was said between two states of a machine is the list of the
logins made in between, with what was answered to each (`Exchanged`). Such lists are joined where the states meet
(`Exchanged.trans`), and the state of the network follows from them.

A command over `ssh` is one exchange, or none if there is a NUL in the login or the command (`send_ssh_eq`). It ends well
just if the answer has code zero.
-/

namespace SwitchFabric

/-- A login, and what was answered. -/
structure Exchange where
  run : RemoteRun
  reply : Shell.Output
  deriving DecidableEq

variable {ν : Type}

namespace Network

variable (net : Network ν)

/-- Logins made one after the other, with their answers. -/
def exchanges : List RemoteRun → ν → List Exchange
  | [], _ => []
  | r :: rs, s => ⟨r, (net.answer r s).1⟩ :: exchanges rs (net.answer r s).2

/-- The state of the network after logins. -/
def after (rs : List RemoteRun) (s : ν) : ν := rs.foldl (fun s r => (net.answer r s).2) s

theorem exchanges_append (rs rs' : List RemoteRun) (s : ν) :
    net.exchanges (rs ++ rs') s = net.exchanges rs s ++ net.exchanges rs' (net.after rs s) := by
  induction rs generalizing s with
  | nil => rfl
  | cons r rs ih =>
    rw [List.cons_append, exchanges, exchanges, ih]
    rfl

theorem after_append (rs rs' : List RemoteRun) (s : ν) :
    net.after (rs ++ rs') s = net.after rs' (net.after rs s) := List.foldl_append

end Network

/-- Between two states of the machine there were these exchanges, first one first. -/
structure Exchanged (net : Network ν) (m m' : Machine ν) (es : List Exchange) : Prop where
  sent : m'.sent = m.sent ++ es.map (·.run)
  network : m'.network = net.after (es.map (·.run)) m.network
  replies : net.exchanges (es.map (·.run)) m.network = es

namespace Exchanged

variable {net : Network ν} {m m' m'' : Machine ν} {es es' : List Exchange}

/-- Without a login there is no exchange. -/
theorem of_eq (hsent : m'.sent = m.sent) (hnetwork : m'.network = m.network) : Exchanged net m m' [] where
  sent := by rw [hsent, List.map_nil, List.append_nil]
  network := hnetwork
  replies := rfl

theorem nil (m : Machine ν) : Exchanged net m m [] := of_eq rfl rfl

theorem logIn (r : RemoteRun) (m : Machine ν) :
    Exchanged net m (Machine.logIn net r m).2 [⟨r, (Machine.logIn net r m).1⟩] := ⟨rfl, rfl, rfl⟩

theorem trans (h : Exchanged net m m' es) (h' : Exchanged net m' m'' es') : Exchanged net m m'' (es ++ es') where
  sent := by rw [h'.sent, h.sent, List.map_append, List.append_assoc]
  network := by rw [h'.network, h.network, List.map_append, Network.after_append]
  replies := by
    have hreplies := h'.replies
    rw [h.network] at hreplies
    rw [List.map_append, Network.exchanges_append, h.replies, hreplies]

/-- Each login is answered as the network answers it in some state. -/
theorem exists_answer (h : Exchanged net m m' es) {e : Exchange} (he : e ∈ es) :
    ∃ s, e.reply = (net.answer e.run s).1 := by
  have hexchanges : ∀ (rs : List RemoteRun) (s : ν), e ∈ net.exchanges rs s → ∃ s, e.reply = (net.answer e.run s).1 := by
    intro rs
    induction rs with
    | nil => exact nofun
    | cons r rs ih =>
      intro s he
      rcases List.mem_cons.1 he with rfl | he
      · exact ⟨s, rfl⟩
      · exact ih _ he
  rw [← h.replies] at he
  exact hexchanges _ _ he

/-- What was said follows from the state before and the logins made. -/
theorem unique (h : Exchanged net m m' es) (h' : Exchanged net m m' es') : es = es' := by
  have hruns : es.map (·.run) = es'.map (·.run) := List.append_cancel_left (h.sent.symm.trans h'.sent)
  rw [← h.replies, ← h'.replies, hruns]

end Exchanged

/-! ## Commands over ssh -/

namespace SshLogin

variable (l : SshLogin)

/-- A NUL keeps the login from being made. -/
def hasNul : Bool := Shell.hasNul l.userid || Shell.hasNul l.host || l.password.any Shell.hasNul

/-- The failure of a command that is not taken. -/
def refused (command : String) (reply : Shell.Output) : SwitchError :=
  .commandFailed (l.commandLine command) reply.code
    (Shell.ExecResult.combined ⟨reply.code, Shell.printedText reply.out, Shell.printedText reply.err⟩)

/-- What comes of the answer to a command. -/
def outcome (command : String) (reply : Shell.Output) : Except SwitchError String :=
  if reply.code = 0 then .ok (Shell.printedText reply.out) else .error (l.refused command reply)

end SshLogin

/-- A command over `ssh` is one login, and its answer decides what comes of it. -/
theorem Delivery.send_ssh_eq (net : Network ν) (l : SshLogin) (command : String) (m : Machine ν) :
    (Delivery.ssh l).send net command m =
      if l.hasNul || Shell.hasNul command then
        (.error (.shellExec (l.commandLine command) "nul byte found in provided data"), m)
      else
        let said := Machine.logIn net (l.remoteRun command) m
        (l.outcome command said.1, said.2) := by
  have hpassword : (l.environment.any fun v => Shell.hasNul v.1 || Shell.hasNul v.2) = l.password.any Shell.hasNul := by
    have hname : Shell.hasNul Machine.passwordVariable = false := by decide
    rw [SshLogin.environment]
    cases l.password <;> simp [hname]
  have hnul : (Shell.hasNul (l.commandLine command) ||
      l.environment.any fun v => Shell.hasNul v.1 || Shell.hasNul v.2) = (l.hasNul || Shell.hasNul command) := by
    rw [hpassword, l.hasNul_commandLine command, SshLogin.hasNul]
    ac_rfl
  rw [send, Shell.output, Shell.execute]
  -- the variables are taken apart by a match there
  erw [hnul]
  cases l.hasNul || Shell.hasNul command with
  | true => rfl
  | false =>
    rw [if_neg Bool.false_ne_true, if_neg Bool.false_ne_true, l.run_commandLine net command m]
    rcases Machine.logIn net (l.remoteRun command) m with ⟨reply, m'⟩
    by_cases hcode : reply.code = 0 <;>
      simp [SshLogin.outcome, SshLogin.refused, Shell.ExecResult.success, Shell.Ending.code, hcode]

end SwitchFabric
