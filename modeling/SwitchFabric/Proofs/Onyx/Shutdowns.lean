import Mathlib.Data.List.Basic
import SwitchFabric.Proofs.Onyx.Collecting
import SwitchFabric.Proofs.Onyx.Exchanges
import SwitchFabric.Proofs.Topology.Bundles

/-!
# Ports that are shut down

A port is shut down while its MTU changes. No other command of a driver shuts a port down: none of them has a beginning
in common with such a command that is long enough (`Spares`). So what comes after a shutdown that a switch took is known
for a whole pass (`shutdown_followed`): the MTU, and then the command that brings the port up again, whatever fails
later. Only where the switch refuses the MTU does the port stay down, as the pass ends with that (`shutdown_left`).
-/

namespace SwitchFabric.Onyx

open Shell (Plain)

/-! ## The commands of a port -/

/-- The command that takes a port down. -/
def shutPort (port : Nat) : String := ethernet port ++ " shutdown"

/-- What is done while the port is down. -/
def changeMtu (port : Nat) (m : Mtu) : String := ethernet port ++ " " ++ mtuWord m

/-- The command that takes the port up again. -/
def openPort (port : Nat) : String := ethernet port ++ " no shutdown"

theorem setMtu_eq (port : Nat) (m : Mtu) : setMtu port m = [shutPort port, changeMtu port m, openPort port] := rfl

/-- No command that shuts a port down begins like this. -/
def Spares (c : String) : Prop := ∀ port, ¬ c.toList <+: (shutPort port).toList

theorem Spares.append {s : String} (h : Spares s) (t : String) : Spares (s ++ t) := by
  intro port hpre
  rw [String.toList_append] at hpre
  exact h port ((List.prefix_append _ _).trans hpre)

theorem Spares.ne {c : String} (h : Spares c) (port : Nat) : c ≠ shutPort port := by
  rintro rfl
  exact h port (List.prefix_refl _)

/-- What the commands of all ports begin with. -/
def slot : String := "interface ethernet 1/"

theorem toList_ethernet (port : Nat) (w : String) :
    (ethernet port ++ w).toList = slot.toList ++ (Text.digits port ++ w.toList) := by
  have hethernet : ethernet port = slot ++ String.ofList (Text.digits port) := rfl
  simp only [hethernet, String.toList_append, String.toList_ofList, List.append_assoc]

theorem spares_of_slot {c : String} (h : ¬ c.toList <+: slot.toList ∧ ¬ slot.toList <+: c.toList) : Spares c := by
  intro port hpre
  have hslot : slot.toList <+: (shutPort port).toList := ⟨_, (toList_ethernet port " shutdown").symm⟩
  exact (List.prefix_or_prefix_of_prefix hpre hslot).elim h.1 h.2

/-- A command that begins with a port and a blank, and is the shutdown of a port, is that of the same port. -/
theorem eq_of_shutPort {port port' : Nat} {w rest : List Char}
    (h : slot.toList ++ (Text.digits port ++ ' ' :: w) ++ rest = (shutPort port').toList) :
    port = port' ∧ w ++ rest = "shutdown".toList := by
  have hshut : " shutdown".toList = ' ' :: "shutdown".toList := by decide
  have hdigits : ' ' ∉ Text.digits port' := Text.notMem_digits rfl port'
  have hlast : ' ' ∉ "shutdown".toList := by decide
  have hends : Text.digits port' ++ ' ' :: "shutdown".toList = Text.digits port ++ ' ' :: (w ++ rest) := by
    rw [shutPort, toList_ethernet, hshut, List.append_assoc, List.append_assoc] at h
    exact (List.append_cancel_left h).symm
  obtain ⟨hport, -, hword⟩ := (List.append_cons_inj_of_notMem hdigits hlast).1 hends
  have hvalue := congrArg Text.value? hport
  rw [Text.value?_digits, Text.value?_digits, Option.some.injEq] at hvalue
  exact ⟨hvalue.symm, hword.symm⟩

theorem shutPort_inj {port port' : Nat} (h : shutPort port = shutPort port') : port = port' := by
  have hshut : " shutdown".toList = ' ' :: "shutdown".toList := by decide
  have heq : slot.toList ++ (Text.digits port ++ ' ' :: "shutdown".toList) ++ [] = (shutPort port').toList := by
    rw [List.append_nil, ← hshut, ← toList_ethernet, ← h, shutPort]
  exact (eq_of_shutPort heq).1

/-- Of two commands for ports, only the words after the port count. -/
theorem spares_ethernet (port : Nat) {w : String} (hblank : w.toList.head? = some ' ')
    (h : ¬ w.toList <+: " shutdown".toList) : Spares (ethernet port ++ w) := by
  rintro port' ⟨rest, hrest⟩
  obtain ⟨word, hw⟩ : ∃ word, w.toList = ' ' :: word := List.head?_eq_some_iff.1 hblank
  have hshut : " shutdown".toList = ' ' :: "shutdown".toList := by decide
  rw [toList_ethernet, hw] at hrest
  rw [hw, hshut, ← (eq_of_shutPort hrest).2] at h
  exact h ⟨rest, rfl⟩

theorem spares_interface (kind : Bundle) (channel : Nat) : Spares (kind.interface channel) := by
  cases kind <;> exact (spares_of_slot (by decide)).append _

theorem spares_vlanInterface (v : VlanId) : Spares (vlanInterface v) := (spares_of_slot (by decide)).append _

theorem spares_no (c : String) : Spares ("no " ++ c) := (spares_of_slot (by decide)).append c

theorem spares_createVlan (v : VlanId) : Spares (createVlan v) := (spares_of_slot (by decide)).append _

theorem spares_deleteVlan (v : VlanId) : Spares (deleteVlan v) := (spares_of_slot (by decide)).append _

theorem spares_unbindPort (port : Nat) : Spares (unbindPort port) := spares_ethernet port (by decide) (by decide)

theorem spares_bindToLag (port channel : Nat) : Spares (bindToLag port channel) :=
  ((spares_ethernet port (by decide) (by decide)).append _).append _

theorem spares_setChannelVlans (kind : Bundle) (channel : Nat) (vlans : List VlanId) :
    ∀ c ∈ setChannelVlans kind channel vlans, Spares c := by
  have hchannel := spares_interface kind channel
  simp only [setChannelVlans, List.forall_mem_cons, List.forall_mem_map]
  exact ⟨hchannel.append _, fun v _ => (hchannel.append _).append _⟩

theorem spares_configureMlag (p : MlagParams) : ∀ c ∈ configureMlag p, Spares c := by
  have hchannel := spares_interface .lag p.channel
  have hvlan := spares_vlanInterface p.vlan
  have hvip : Spares (setVip p.vip) := by
    cases p.vip with
    | none => exact spares_of_slot (by decide)
    | some vip => exact ((spares_of_slot (by decide)).append _).append _
  simp only [configureMlag, List.forall_mem_append, List.forall_mem_cons, List.forall_mem_map, List.not_mem_nil,
    false_implies, implies_true, and_true]
  exact ⟨⟨⟨spares_of_slot (by decide), spares_of_slot (by decide), spares_of_slot (by decide),
      spares_createVlan p.vlan, hchannel⟩, fun port _ => spares_bindToLag port p.channel⟩,
    hchannel.append _, hchannel.append _, hvlan, (hvlan.append _).append _, (hvlan.append _).append _, hvip⟩

theorem spares_deconfigureMlag (l : PeerLink) : ∀ c ∈ deconfigureMlag l, Spares c := by
  have hchannel := spares_interface .lag l.channel
  have hvlan := spares_vlanInterface l.vlan
  simp only [deconfigureMlag, List.forall_mem_append, List.forall_mem_cons, List.forall_mem_map, List.not_mem_nil,
    false_implies, implies_true, and_true]
  exact ⟨⟨⟨spares_of_slot (by decide), spares_of_slot (by decide), hvlan.append _, hvlan.append _, spares_no _,
      hchannel.append _, hchannel.append _⟩, fun port _ => spares_unbindPort port⟩,
    spares_no _, spares_deleteVlan l.vlan, spares_of_slot (by decide), spares_of_slot (by decide)⟩

/-- Only the change of a port's MTU shuts a port down. -/
theorem spares_commandList {a : Action} (ha : ∀ port mtu, a ≠ .setMtuForPort port mtu) :
    ∀ c ∈ commandList a, Spares c := by
  cases a with
  | createVlan v => exact List.forall_mem_singleton.2 (spares_createVlan v)
  | deleteVlan v => exact List.forall_mem_singleton.2 (spares_deleteVlan v)
  | setSwitchportMode port mode =>
    exact List.forall_mem_singleton.2 ((spares_ethernet port (by decide) (by decide)).append _)
  | addVlansToPort port vlans | removeVlansFromPort port vlans =>
    exact List.forall_mem_map.2 fun v _ => (spares_ethernet port (by decide) (by decide)).append _
  | setMtuForPort port mtu => exact absurd rfl (ha port mtu)
  | configureMlag p => exact spares_configureMlag p
  | enableMlag => exact List.forall_mem_singleton.2 (spares_of_slot (by decide))
  | deconfigureMlag => exact nofun
  | createLagInterface channel => exact List.forall_mem_singleton.2 (spares_interface .lag channel)
  | removeLagInterface channel | removeMlagInterface channel => exact List.forall_mem_singleton.2 (spares_no _)
  | removeChannelGroup port => exact List.forall_mem_singleton.2 (spares_unbindPort port)
  | bindPortsToLagInterface ports channel => exact List.forall_mem_map.2 fun port _ => spares_bindToLag port channel
  | addVlansToLagPortChannel channel vlans => exact spares_setChannelVlans .lag channel vlans
  | addVlansToMlagPortChannel channel vlans => exact spares_setChannelVlans .mlag channel vlans
  | setMtuForLagPortChannel channel mtu =>
    exact List.forall_mem_singleton.2 ((((spares_interface .lag channel).append _).append _).append _)
  | setMtuForMlagPortChannel channel mtu =>
    exact List.forall_mem_singleton.2 ((((spares_interface .mlag channel).append _).append _).append _)
  | createMlagInterface channel =>
    have hchannel := spares_interface .mlag channel
    simp only [commandList, createMlagChannel, List.forall_mem_cons, List.not_mem_nil, false_implies, implies_true,
      and_true]
    exact ⟨hchannel, hchannel.append _, hchannel.append _⟩
  | bindPortToMlagInterface port channel =>
    simp only [commandList, bindToMlag, List.forall_mem_cons, List.not_mem_nil, false_implies, implies_true, and_true]
    exact ⟨((spares_ethernet port (by decide) (by decide)).append _).append _,
      (spares_interface .mlag channel).append _⟩

theorem spares_of_mem_showCommands {c : String} (h : c ∈ showCommands) : Spares c := by
  have hshow : ∀ c ∈ showCommands, ¬ c.toList <+: slot.toList ∧ ¬ slot.toList <+: c.toList := by decide
  exact spares_of_slot (hshow c h)

theorem spares_of_mayRun {a : Action} (ha : ∀ port mtu, a ≠ .setMtuForPort port mtu) {move : Move}
    (hmove : move ∈ moves a) {c : String} (h : move.MayRun c) : Spares c := by
  cases move with
  | send d =>
    obtain rfl : c = d := h
    have hmem := mem_commandsOf.2 hmove
    rw [commandsOf_act] at hmem
    exact spares_commandList ha c hmem
  | expect e failure =>
    obtain rfl : c = e.query := h
    exact spares_of_mem_showCommands (query_mem_showCommands e)
  | takeDownMlag =>
    rcases h with h | ⟨link, h⟩
    · exact spares_of_mem_showCommands (List.mem_of_mem_tail (List.mem_of_mem_tail h))
    · exact spares_deconfigureMlag link c h

/-! ## After a shutdown -/

/-- What comes after the exchange in which a switch took the shutdown of a port. The switch is told the MTU of the port
and, if it takes that, to bring the port up. If it does not, nothing comes after, and that is what fails. -/
inductive AfterShutdown (l : SshLogin) (port : Nat) (fails : SwitchError → Prop) : List Exchange → Prop where
  | reopened (mtu : Mtu) {reply reply' : Shell.Output} (rest : List Exchange) : reply.code = 0 →
    AfterShutdown l port fails
      (⟨l.remoteRun (remote (changeMtu port mtu)), reply⟩ :: ⟨l.remoteRun (remote (openPort port)), reply'⟩ :: rest)
  | refused (mtu : Mtu) {reply : Shell.Output} : reply.code ≠ 0 → fails (l.refused (remote (changeMtu port mtu)) reply) →
    AfterShutdown l port fails [⟨l.remoteRun (remote (changeMtu port mtu)), reply⟩]

/-- The shutdowns among exchanges that switches took are followed as they should be. -/
def Followed (drivers : SortedMap String Driver) (result : Except PassError Unit) (es : List Exchange) : Prop :=
  ∀ before e after port, es = before ++ e :: after → e.run.command = remote (shutPort port) → e.reply.code = 0 →
    ∃ label host l, drivers.get? label = some ⟨host, .ssh l⟩ ∧ e.run = l.remoteRun (remote (shutPort port)) ∧
      AfterShutdown l port (fun why => result = .error (.switch label why)) after

namespace Followed

variable {drivers : SortedMap String Driver} {result : Except PassError Unit} {es es' : List Exchange}

/-- Exchanges without a shutdown. -/
theorem of_spares {d : Driver}
    (h : ∀ e ∈ es, ∃ l c, d.delivery = .ssh l ∧ (Plain c ∧ Spares c) ∧ e.run = l.remoteRun (remote c)) :
    Followed drivers result es := by
  rintro before e after port rfl hshut -
  obtain ⟨l, c, -, ⟨hplain, hspares⟩, hrun⟩ := h e (List.mem_append_right _ List.mem_cons_self)
  rw [hrun, remoteRun_remote l hplain] at hshut
  exact absurd (remote_inj hshut) (hspares.ne port)

theorem nil : Followed drivers result [] := by
  intro before e after port heq
  cases before <;> cases heq

theorem cons {e : Exchange} (h : Followed drivers result es)
    (hhead : ∀ port, e.run.command = remote (shutPort port) → e.reply.code = 0 →
      ∃ label host l, drivers.get? label = some ⟨host, .ssh l⟩ ∧ e.run = l.remoteRun (remote (shutPort port)) ∧
        AfterShutdown l port (fun why => result = .error (.switch label why)) es) :
    Followed drivers result (e :: es) := by
  intro before e' after port heq hshut hcode
  cases before with
  | nil =>
    obtain ⟨rfl, rfl⟩ := List.cons.inj heq
    exact hhead port hshut hcode
  | cons _ before => exact h before e' after port (List.cons.inj heq).2 hshut hcode

theorem append (h : Followed drivers (.ok ()) es) (h' : Followed drivers result es') :
    Followed drivers result (es ++ es') := by
  intro before e after port heq hshut hcode
  obtain ⟨back, rfl, rfl⟩ | ⟨front, rfl, hes'⟩ := split_append heq
  · obtain ⟨label, host, l, hdriver, hrun, hafter⟩ := h before e back port rfl hshut hcode
    refine ⟨label, host, l, hdriver, hrun, ?_⟩
    -- The exchanges before do not end in a refusal, or else they would not have ended well.
    cases hafter with
    | reopened mtu rest hok => exact .reopened mtu (rest ++ es') hok
    | refused mtu _ hfails => cases hfails
  · exact h' front e after port hes' hshut hcode

end Followed

/-! ## The change of a port's MTU -/

theorem mem_commandsOf_setMtu {port : Nat} {mtu : Mtu} {c : String} (h : c ∈ setMtu port mtu) :
    c ∈ commandsOf (.act (.setMtuForPort port mtu)) := by
  rwa [commandsOf_act]

variable {ν : Type} (net : Network ν)

theorem plain_setMtu (port : Nat) (mtu : Mtu) : Plain (shutPort port) ∧ Plain (changeMtu port mtu) ∧ Plain (openPort port) := by
  have hplain : ∀ c ∈ setMtu port mtu, Plain c := fun c hc =>
    (sendable_of_mem_commandsOf (mem_commandsOf_setMtu hc)).1
  simpa [setMtu_eq] using hplain

theorem spares_changeMtu (port : Nat) (mtu : Mtu) : Spares (changeMtu port mtu) := by
  rw [changeMtu, mtuWord]
  split
  · rw [String.append_assoc]
    exact spares_ethernet port (by decide) (by decide)
  · have hassoc : ethernet port ++ " " ++ ("mtu " ++ Text.decimal mtu.value) =
        ethernet port ++ (" " ++ "mtu ") ++ Text.decimal mtu.value := by simp only [String.append_assoc]
    rw [hassoc]
    exact (spares_ethernet port (by decide) (by decide)).append _

theorem spares_openPort (port : Nat) : Spares (openPort port) := spares_ethernet port (by decide) (by decide)

/-- The MTU of a port is changed in up to three exchanges, of which all but the last are taken. -/
theorem exchanged_setMtu (host : String) {l : SshLogin} (hnul : l.hasNul = false) (port : Nat) (mtu : Mtu)
    (m : Machine ν) :
    ∃ result m', (sender host l).commands net (setMtu port mtu) m = (result, m') ∧
      ((∃ reply, reply.code ≠ 0 ∧ Exchanged net m m' [⟨l.remoteRun (remote (shutPort port)), reply⟩]) ∨
        (∃ reply reply', reply.code = 0 ∧ reply'.code ≠ 0 ∧
          result = .error (l.refused (remote (changeMtu port mtu)) reply') ∧
          Exchanged net m m' [⟨l.remoteRun (remote (shutPort port)), reply⟩,
            ⟨l.remoteRun (remote (changeMtu port mtu)), reply'⟩]) ∨
        ∃ reply reply' reply'', reply.code = 0 ∧ reply'.code = 0 ∧
          Exchanged net m m' [⟨l.remoteRun (remote (shutPort port)), reply⟩,
            ⟨l.remoteRun (remote (changeMtu port mtu)), reply'⟩, ⟨l.remoteRun (remote (openPort port)), reply''⟩]) := by
  have hsent : ∀ c ∈ setMtu port mtu, Shell.hasNul c = false := fun c hc =>
    hasNul_of_mem_commandsOf (mem_commandsOf_setMtu hc)
  rw [setMtu_eq] at hsent ⊢
  simp only [List.forall_mem_cons] at hsent
  obtain ⟨hshut, hmtu, hopen, -⟩ := hsent
  obtain ⟨reply, m₁, hfirst, ⟨hcode, hrun⟩ | ⟨hcode, hrun⟩⟩ := Driver.commands_cons_cases net host hnul hshut _ m
  · obtain ⟨reply', m₂, hsecond, ⟨hcode', hrun'⟩ | ⟨hcode', hrun'⟩⟩ := Driver.commands_cons_cases net host hnul hmtu _ m₁
    · -- The port is brought up, whether the switch takes that or not.
      obtain ⟨reply'', m₃, hthird, hend⟩ := Driver.commands_cons_cases net host hnul hopen [] m₂
      have hall := hfirst.trans (hsecond.trans hthird)
      obtain ⟨-, hend⟩ | ⟨-, hend⟩ := hend
      · exact ⟨_, m₃, hrun.trans (hrun'.trans hend), .inr (.inr ⟨reply, reply', reply'', hcode, hcode', hall⟩)⟩
      · exact ⟨_, m₃, hrun.trans (hrun'.trans hend), .inr (.inr ⟨reply, reply', reply'', hcode, hcode', hall⟩)⟩
    · exact ⟨_, m₂, hrun.trans hrun', .inr (.inl ⟨reply, reply', hcode, hcode', rfl, hfirst.trans hsecond⟩)⟩
  · exact ⟨_, m₁, hrun, .inl ⟨reply, hcode, hfirst⟩⟩

theorem followed_setMtu {drivers : SortedMap String Driver} {label host : String} {l : SshLogin}
    (hdriver : drivers.get? label = some (sender host l)) (port : Nat) (mtu : Mtu) (m : Machine ν) :
    ∃ es, Exchanged net m ((sender host l).commands net (setMtu port mtu) m).2 es ∧
      Followed drivers (((sender host l).commands net (setMtu port mtu) m).1.mapError (.switch label)) es := by
  cases hnul : l.hasNul with
  | true =>
    rw [setMtu_eq, Driver.commands_cons_of_hasNul net host hnul]
    exact ⟨[], .nil m, .nil⟩
  | false =>
    obtain ⟨hplain, hplain', hplain''⟩ := plain_setMtu port mtu
    have hothers (result : Except PassError Unit) (es : List Exchange)
        (h : ∀ e ∈ es, ∃ c, (Plain c ∧ Spares c) ∧ e.run = l.remoteRun (remote c)) : Followed drivers result es :=
      .of_spares (d := sender host l) fun e he =>
        have ⟨c, hc, hrun⟩ := h e he
        ⟨l, c, rfl, hc, hrun⟩
    have hsame (port' : Nat) (h : (l.remoteRun (remote (shutPort port))).command = remote (shutPort port')) :
        port' = port := by
      rw [remoteRun_remote l hplain] at h
      exact (shutPort_inj (remote_inj h)).symm
    obtain ⟨result, m', hrun, hcases⟩ := exchanged_setMtu net host hnul port mtu m
    rw [hrun]
    rcases hcases with ⟨reply, hcode, hes⟩ | ⟨reply, reply', -, hcode, rfl, hes⟩ | ⟨reply, reply', reply'', -, hcode, hes⟩
    · exact ⟨_, hes, .cons .nil fun _ _ hok => absurd hok hcode⟩
    · refine ⟨_, hes, .cons (hothers _ _ ?_) fun port' hport' _ => ?_⟩
      · exact List.forall_mem_singleton.2 ⟨_, ⟨hplain', spares_changeMtu port mtu⟩, rfl⟩
      · obtain rfl := hsame port' hport'
        exact ⟨label, host, l, hdriver, rfl, .refused mtu hcode rfl⟩
    · refine ⟨_, hes, .cons (hothers _ _ ?_) fun port' hport' _ => ?_⟩
      · exact List.forall_mem_cons.2 ⟨⟨_, ⟨hplain', spares_changeMtu port mtu⟩, rfl⟩,
          List.forall_mem_singleton.2 ⟨_, ⟨hplain'', spares_openPort port⟩, rfl⟩⟩
      · obtain rfl := hsame port' hport'
        exact ⟨label, host, l, hdriver, rfl, .reopened mtu [] hcode⟩

/-! ## Passes -/

variable (drivers : SortedMap String Driver)

theorem followed_act (label : String) (a : Action) (m : Machine ν) :
    ∃ es, Exchanged net m ((Fleet.ofDrivers net drivers).act label a m).2 es ∧
      Followed drivers (((Fleet.ofDrivers net drivers).act label a m).1.mapError (.switch label)) es := by
  cases hdriver : drivers.get? label with
  | none =>
    rw [ofDrivers_act_of_none net hdriver]
    exact ⟨[], .nil m, .nil⟩
  | some d =>
    rw [ofDrivers_act net hdriver]
    by_cases ha : ∃ port mtu, a = .setMtuForPort port mtu
    · obtain ⟨port, mtu, rfl⟩ := ha
      obtain ⟨host, l | path⟩ := d
      · rw [moves, Driver.run_sendAll]
        exact followed_setMtu net hdriver port mtu m
      · -- A driver that collects is not on the network.
        have hany : ∀ move ∈ moves (.setMtuForPort port mtu), ∀ c, move.MayRun c → True := fun _ _ _ _ => trivial
        obtain ⟨es, hes, hfile⟩ := Driver.says_run net ⟨host, .file path⟩ hany m
        refine ⟨es, hes, .of_spares (d := ⟨host, .file path⟩) fun e he => ?_⟩
        obtain ⟨l, -, hssh, -⟩ := hfile e he
        cases hssh
    · have hmoves : ∀ move ∈ moves a, ∀ c, move.MayRun c → Plain c ∧ Spares c := fun move hmove c hc =>
        ⟨plain_of_mayRun hmove hc, spares_of_mayRun (fun port mtu heq => ha ⟨port, mtu, heq⟩) hmove hc⟩
      obtain ⟨es, hes, hruns⟩ := Driver.says_run net d hmoves m
      exact ⟨es, hes, .of_spares hruns⟩

theorem followed_query (label : String) (m : Machine ν) (result : Except PassError Unit) :
    ∃ es, Exchanged net m ((Fleet.ofDrivers net drivers).isMlagConfigured label m).2 es ∧
      Followed drivers result es := by
  cases hdriver : drivers.get? label with
  | none =>
    rw [ofDrivers_query_of_none net hdriver]
    exact ⟨[], .nil m, .nil⟩
  | some d =>
    rw [ofDrivers_query net hdriver]
    have hshow : showMlag ∈ showCommands := by decide
    obtain ⟨es, hes, hruns⟩ := Driver.says_isMlagConfigured net d (P := fun c => Plain c ∧ Spares c)
      ⟨plain_of_mem_showCommands hshow, spares_of_mem_showCommands hshow⟩ m
    exact ⟨es, hes, .of_spares hruns⟩

variable {π : Type} (o : Operator π)

/-- By induction on the plan: exchanges before a call belong to calls that ended well. -/
theorem followed_run (p : Plan) (s : PassState (Machine ν) π) :
    ∃ es, Exchanged net s.fleet (p.run (Fleet.ofDrivers net drivers) o s).2.fleet es ∧
      Followed drivers (p.run (Fleet.ofDrivers net drivers) o s).1 es := by
  induction p generalizing s with
  | done => exact ⟨[], .nil s.fleet, .nil⟩
  | act label a k ih =>
    obtain ⟨es, hes, hfollowed⟩ := followed_act net drivers label a s.fleet
    rw [Plan.run]
    rcases hact : (Fleet.ofDrivers net drivers).act label a s.fleet with ⟨e | _, m⟩ <;> rw [hact] at hes hfollowed
    · exact ⟨es, hes, hfollowed⟩
    · obtain ⟨es', hes', hfollowed'⟩ := ih { s with fleet := m }
      exact ⟨es ++ es', hes.trans hes', hfollowed.append hfollowed'⟩
  | query label k ih =>
    rw [Plan.run]
    rcases hquery : (Fleet.ofDrivers net drivers).isMlagConfigured label s.fleet with ⟨e | answer, m⟩
    · obtain ⟨es, hes, hfollowed⟩ := followed_query net drivers label s.fleet (.error (.switch label e))
      rw [hquery] at hes
      exact ⟨es, hes, hfollowed⟩
    · obtain ⟨es, hes, hfollowed⟩ := followed_query net drivers label s.fleet (.ok ())
      rw [hquery] at hes
      obtain ⟨es', hes', hfollowed'⟩ := ih answer { s with fleet := m }
      exact ⟨es ++ es', hes.trans hes', hfollowed.append hfollowed'⟩
  | ask question k ih =>
    rw [Plan.run]
    rcases o.confirm question s.operator with ⟨_ | answer, operator⟩
    · exact ⟨[], .nil s.fleet, .nil⟩
    · exact ih answer { s with operator := operator }

/-- Whatever a network answers, the shutdown of a port that a switch took is followed in a pass by the MTU of the port
on the same switch. If the switch takes that too, the next command brings the port up again, also if a later one fails.
If it does not, nothing is sent any more, and the pass fails for that reason. -/
theorem shutdown_followed (t : Topology) (pass : List Step) (s : PassState (Machine ν) π) :
    let ended := Pass.run (Fleet.ofDrivers net drivers) o t pass s
    ∃ es, Exchanged net s.fleet ended.2.fleet es ∧
      ∀ before e after port, es = before ++ e :: after →
        e.run.command = remote (shutPort port) → e.reply.code = 0 →
        ∃ label host l, drivers.get? label = some ⟨host, .ssh l⟩ ∧
          e.run = l.remoteRun (remote (shutPort port)) ∧
          AfterShutdown l port (fun why => ended.1 = .error (.switch label why)) after := by
  intro ended
  cases hmissing : Pass.missingDriver (Fleet.ofDrivers net drivers) t.switches s.fleet with
  | some label =>
    have hended : ended = (.error (.missingDriver label), s) := Pass.run_of_missing _ o hmissing pass
    rw [hended]
    exact ⟨[], .nil s.fleet, Followed.nil⟩
  | none =>
    have hended : ended = (Pass.plan pass).run (Fleet.ofDrivers net drivers) o s := Pass.run_of_covered _ o hmissing pass
    rw [hended]
    exact followed_run net drivers o (Pass.plan pass) s

/-- Port 5 of one switch, which commands are sent to, with the MTU 9000. -/
def jumboPort : Cluster :=
  let c := Cluster.bare.withSwitch "data_1"
    |>.withInterface ((Interface.physical "eth10").withMtu 9000)
    |>.withTemplate "compute" [⟨"data_1", "eth10", [5]⟩]
  { c with switches := c.switches.map fun s => { s with mode := .active } }

/-- The login to the switch, and its driver. -/
def jumboLogin : SshLogin := ⟨"192.168.5.20", "admin", none⟩

/-- A fleet of one switch, which is sent its commands. -/
def jumboDrivers : SortedMap String Driver := SortedMap.empty.insert "data_1" (sender "192.168.5.20" jumboLogin)

/-- A fabric that only changes the MTU of one port. -/
def jumboTopology : Topology := { Topology.empty with mtuPorts := .ofList [("data_1", .ofList [(⟨9000⟩, [5])])] }

theorem jumboPort_eq : jumboPort.check = .ok () ∧ jumboPort.topology = .ok jumboTopology ∧
    Registry.builtIn.connect jumboPort.accessInfo = .ok jumboDrivers := by
  decide +kernel

/-- The pass that configures the port. -/
def jumboRun (net : Network ν) (m : Machine ν) : Except PassError Unit × PassState (Machine ν) Script :=
  Pass.run (Fleet.ofDrivers net jumboDrivers) Script.operator jumboTopology jumboTopology.configure ⟨m, ⟨[], []⟩⟩

/-- It changes the MTU of the port. -/
theorem jumboRun_eq (net : Network ν) {m m' : Machine ν} {result : Except SwitchError Unit}
    (h : (sender "192.168.5.20" jumboLogin).commands net (setMtu 5 ⟨9000⟩) m = (result, m')) :
    jumboRun net m = (result.mapError (.switch "data_1"), ⟨m', ⟨[], []⟩⟩) := by
  have hcovered : Pass.missingDriver (Fleet.ofDrivers net jumboDrivers) jumboTopology.switches m = none := rfl
  have hconfigure : jumboTopology.configure = [.act "data_1" (.setMtuForPort 5 ⟨9000⟩)] := rfl
  have hdriver : jumboDrivers.get? "data_1" = some (sender "192.168.5.20" jumboLogin) := rfl
  have hact : (Fleet.ofDrivers net jumboDrivers).act "data_1" (.setMtuForPort 5 ⟨9000⟩) m = (result, m') := by
    rw [ofDrivers_act net hdriver, moves, Driver.run_sendAll, h]
  rw [jumboRun, Pass.run_of_covered _ _ hcovered, hconfigure, Pass.plan_cons, Pass.plan_nil, Step.plan, Plan.run, hact]
  cases result <;> rfl

/-- A network that refuses some command lines with a message, and takes all others. -/
def refusing (lines : List String) (message : String) : Network Unit :=
  ⟨fun r s => (if r.command ∈ lines then .failed message 1 else .ofCode 0, s)⟩

theorem reply_of_refusing {lines : List String} {message : String} {m m' : Machine Unit} {es : List Exchange}
    (h : Exchanged (refusing lines message) m m' es) {e : Exchange} (he : e ∈ es) :
    e.reply = if e.run.command ∈ lines then .failed message 1 else .ofCode 0 := by
  obtain ⟨s, hs⟩ := h.exists_answer he
  exact hs

/-- Where the switch takes all commands, the port is brought up again. -/
theorem shutdown_followed_jumboPort :
    let m : Machine Unit := ⟨.empty, (), []⟩
    ∃ mtu reply reply' rest, Exchanged (refusing [] "") m (jumboRun (refusing [] "") m).2.fleet
      (⟨jumboLogin.remoteRun (remote (shutPort 5)), .ofCode 0⟩ ::
        ⟨jumboLogin.remoteRun (remote (changeMtu 5 mtu)), reply⟩ ::
        ⟨jumboLogin.remoteRun (remote (openPort 5)), reply'⟩ :: rest) := by
  intro m
  have hshut : (jumboLogin.remoteRun (remote (shutPort 5))).command = remote (shutPort 5) :=
    remoteRun_remote jumboLogin (plain_setMtu 5 ⟨9000⟩).1
  obtain ⟨result, m', hrun, hcases⟩ := exchanged_setMtu (refusing [] "") "192.168.5.20"
    (show jumboLogin.hasNul = false by decide) 5 ⟨9000⟩ m
  have htaken {es : List Exchange} (hes : Exchanged (refusing [] "") m m' es) {e : Exchange} (he : e ∈ es) :
      e.reply = .ofCode 0 := reply_of_refusing hes he
  have hended := jumboRun_eq (refusing [] "") hrun
  obtain ⟨es, hes, hfollowed⟩ := shutdown_followed (refusing [] "") jumboDrivers Script.operator jumboTopology
    jumboTopology.configure ⟨m, ⟨[], []⟩⟩
  rw [jumboRun] at hended ⊢
  rw [hended] at hes ⊢
  obtain ⟨reply, after, rfl⟩ : ∃ reply after, es = ⟨jumboLogin.remoteRun (remote (shutPort 5)), reply⟩ :: after := by
    rcases hcases with ⟨reply, -, h⟩ | ⟨reply, reply', -, -, -, h⟩ | ⟨reply, reply', reply'', -, -, h⟩ <;>
      exact ⟨reply, _, hes.unique h⟩
  obtain rfl : reply = .ofCode 0 := htaken hes List.mem_cons_self
  obtain ⟨label, host, l, hdriver, -, hopened⟩ := hfollowed [] _ after 5 rfl hshut rfl
  obtain rfl : l = jumboLogin := by
    rw [jumboDrivers, SortedMap.get?_insert] at hdriver
    split at hdriver
    · cases hdriver
      rfl
    · cases hdriver
  cases hopened with
  | reopened mtu rest _ => exact ⟨mtu, _, _, rest, hes⟩
  | @refused mtu reply hcode _ =>
    obtain rfl : reply = .ofCode 0 := htaken hes (List.mem_cons_of_mem _ List.mem_cons_self)
    exact absurd rfl hcode

/-- A switch that does not take the MTU is left with the port shut down. -/
theorem shutdown_left :
    let m : Machine Unit := ⟨.empty, (), []⟩
    let shut := remote (shutPort 5)
    let mtu := remote (changeMtu 5 ⟨9000⟩)
    let net := refusing [mtu] "% Invalid MTU"
    jumboPort.check = .ok () ∧ jumboPort.topology = .ok jumboTopology ∧
      Registry.builtIn.connect jumboPort.accessInfo = .ok jumboDrivers ∧
      (jumboRun net m).1 = .error (.switch "data_1" (jumboLogin.refused mtu (.failed "% Invalid MTU" 1))) ∧
      Exchanged net m (jumboRun net m).2.fleet
        [⟨jumboLogin.remoteRun shut, .ofCode 0⟩, ⟨jumboLogin.remoteRun mtu, .failed "% Invalid MTU" 1⟩] ∧
      ∀ r ∈ (jumboRun net m).2.fleet.sent, r.command ≠ remote (openPort 5) := by
  intro m shut mtu net
  obtain ⟨hcheck, htopology, hconnect⟩ := jumboPort_eq
  refine ⟨hcheck, htopology, hconnect, ?_⟩
  obtain ⟨hplain, hplain', -⟩ := plain_setMtu 5 ⟨9000⟩
  have hshut : (jumboLogin.remoteRun shut).command = shut := remoteRun_remote jumboLogin hplain
  have hmtu : (jumboLogin.remoteRun mtu).command = mtu := remoteRun_remote jumboLogin hplain'
  have hne : shut ≠ mtu := fun heq => (spares_changeMtu 5 ⟨9000⟩).ne 5 (remote_inj heq).symm
  obtain ⟨result, m', hrun, hcases⟩ := exchanged_setMtu net "192.168.5.20"
    (show jumboLogin.hasNul = false by decide) 5 ⟨9000⟩ m
  have htaken {es : List Exchange} (hes : Exchanged net m m' es) {reply : Shell.Output}
      (he : ⟨jumboLogin.remoteRun shut, reply⟩ ∈ es) : reply = .ofCode 0 := by
    have hreply := reply_of_refusing hes he
    rwa [hshut, if_neg (by simpa using hne)] at hreply
  have hrefused {es : List Exchange} (hes : Exchanged net m m' es) {reply : Shell.Output}
      (he : ⟨jumboLogin.remoteRun mtu, reply⟩ ∈ es) : reply = .failed "% Invalid MTU" 1 := by
    have hreply := reply_of_refusing hes he
    rwa [hmtu, if_pos List.mem_cons_self] at hreply
  rw [jumboRun_eq net hrun]
  rcases hcases with ⟨reply, hcode, hes⟩ | ⟨reply, reply', -, -, rfl, hes⟩ | ⟨reply, reply', reply'', -, hcode, hes⟩
  · rw [htaken hes List.mem_cons_self] at hcode
    exact absurd rfl hcode
  · obtain rfl := htaken hes List.mem_cons_self
    obtain rfl := hrefused hes (List.mem_cons_of_mem _ List.mem_cons_self)
    refine ⟨rfl, hes, fun r hr => ?_⟩
    have hopen : shutPort 5 ≠ openPort 5 ∧ changeMtu 5 ⟨9000⟩ ≠ openPort 5 := by decide +kernel
    have hsent : m'.sent = [jumboLogin.remoteRun shut, jumboLogin.remoteRun mtu] := hes.sent
    have hr : r ∈ m'.sent := hr
    simp only [hsent, List.mem_cons, List.not_mem_nil, or_false] at hr
    rcases hr with rfl | rfl
    · rw [hshut]
      exact fun heq => hopen.1 (remote_inj heq)
    · rw [hmtu]
      exact fun heq => hopen.2 (remote_inj heq)
  · rw [hrefused hes (List.mem_cons_of_mem _ List.mem_cons_self)] at hcode
    exact absurd hcode (by decide)

end SwitchFabric.Onyx
