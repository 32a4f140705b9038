import SwitchFabric.Proofs.Onyx.Dialogues
import SwitchFabric.Proofs.Onyx.ReadBack

/-!
# Taking MLAG down

MLAG is taken down only where the inter-peer link is known. If one of the two questions about it is not answered, or
there is no link or no port of it in the answers, the call fails and nothing was sent but the questions. Otherwise the
commands that take MLAG down on this link are sent up to the first that fails (`teardown_exact`). They shut MLAG down
first, and free the ports of the link before its port channel and its VLAN are removed (`FreesFirst`).
-/

namespace SwitchFabric.Onyx

open Shell (printedText)

/-! ## The order of the commands -/

/-- No text that starts with `p` starts like the command. -/
def Apart (p : List Char) (c : String) : Prop := ¬ p <+: c.toList ∧ ¬ c.toList <+: p

instance (p : List Char) (c : String) : Decidable (Apart p c) := inferInstanceAs (Decidable (_ ∧ _))

theorem Apart.append {p : List Char} {s : String} (h : Apart p s) (t : String) : Apart p (s ++ t) := by
  rw [Apart, String.toList_append]
  refine ⟨fun hpre => ?_, fun hpre => h.2 ((List.prefix_append _ _).trans hpre)⟩
  exact (List.prefix_or_prefix_of_prefix hpre (List.prefix_append _ _)).elim h.1 h.2

theorem Apart.ne {p c : String} (h : Apart p.toList c) (t : String) : p ++ t ≠ c := by
  rintro rfl
  rw [Apart, String.toList_append] at h
  exact h.1 (List.prefix_append _ _)

/-- The commands that free the link, after the one that shuts MLAG down. -/
def freeing (link : PeerLink) : List String :=
  let channel := Bundle.lag.interface link.channel
  ["no mlag-vip", vlanInterface link.vlan ++ " no ipl 1 peer-address", vlanInterface link.vlan ++ " no ip address",
    "no " ++ vlanInterface link.vlan, channel ++ " no dcb priority-flow-control mode force", channel ++ " no ipl 1"] ++
  link.ports.map unbindPort

/-- The commands that remove it. -/
def removing (link : PeerLink) : List String :=
  [removeLag link.channel, deleteVlan link.vlan, "no protocol mlag", "no dcb priority-flow-control enable force"]

theorem deconfigureMlag_eq (link : PeerLink) :
    deconfigureMlag link = disableMlag :: freeing link ++ removing link := rfl

/-- What starts with `p` is not among the commands that free the link. -/
theorem apart_freeing (link : PeerLink) {p : List Char}
    (hp : p ∈ ["no interface port-channel ".toList, "no vlan ".toList]) :
    ∀ c ∈ disableMlag :: freeing link, Apart p c := by
  have hdisable : Apart p disableMlag := by revert p; decide
  have hvip : Apart p "no mlag-vip" := by revert p; decide
  have hinterface : Apart p "interface vlan " := by revert p; decide
  have hno : Apart p ("no " ++ "interface vlan ") := by revert p; decide
  have hchannel : Apart p "interface port-channel " := by revert p; decide
  have hport : Apart p "interface ethernet 1/" := by revert p; decide
  have hremoved : Apart p ("no " ++ vlanInterface link.vlan) := by
    rw [vlanInterface, ← String.append_assoc]
    exact hno.append _
  simp only [freeing, List.forall_mem_append, List.forall_mem_cons, List.forall_mem_map, List.not_mem_nil,
    false_implies, implies_true, and_true]
  exact ⟨hdisable, ⟨hvip, (hinterface.append _).append _, (hinterface.append _).append _, hremoved,
    (hchannel.append _).append _, (hchannel.append _).append _⟩, fun port _ => (hport.append _).append _⟩

/-- Ports are not freed while the link is removed. -/
theorem apart_removing (link : PeerLink) : ∀ c ∈ removing link, Apart "interface ethernet 1/".toList c := by
  have hno : Apart "interface ethernet 1/".toList "no " := by decide
  have hvlan : Apart "interface ethernet 1/".toList "no vlan " := by decide
  simp only [removing, List.forall_mem_cons, List.not_mem_nil, false_implies, implies_true, and_true]
  exact ⟨hno.append _, hvlan.append _, by decide, by decide⟩

/-- MLAG is shut down first, and all ports are freed before the port channel and the VLAN are removed. -/
def FreesFirst (link : PeerLink) : Prop :=
  ∃ front back, deconfigureMlag link = disableMlag :: front ++ back ∧
    (∀ port ∈ link.ports, unbindPort port ∈ front) ∧ (∀ port, unbindPort port ∉ back) ∧
    ∀ c ∈ [removeLag link.channel, deleteVlan link.vlan], c ∈ back ∧ c ∉ disableMlag :: front

theorem freesFirst (link : PeerLink) : FreesFirst link := by
  refine ⟨freeing link, removing link, deconfigureMlag_eq link, fun port hport => ?_, fun port hport => ?_, ?_⟩
  · exact List.mem_append_right _ (List.mem_map_of_mem hport)
  · have hunbind : "interface ethernet 1/" ++ (Text.decimal port ++ " no channel-group") = unbindPort port :=
      String.append_assoc.symm
    exact (apart_removing link _ hport).ne _ hunbind
  · have hword : "no interface port-channel " = "no " ++ "interface port-channel " := by decide
    have hremove : "no interface port-channel " ++ Text.decimal link.channel = removeLag link.channel := by
      rw [hword, String.append_assoc]
      rfl
    simp only [List.forall_mem_cons, List.not_mem_nil, false_implies, implies_true, and_true]
    refine ⟨⟨List.mem_cons_self, fun hmem => ?_⟩, List.mem_cons_of_mem _ List.mem_cons_self, fun hmem => ?_⟩
    · exact (apart_freeing link List.mem_cons_self _ hmem).ne _ hremove
    · exact (apart_freeing link (List.mem_cons_of_mem _ List.mem_cons_self) _ hmem).ne _ rfl

/-! ## The call -/

/-- The question was answered, and the text is what the answer shows. -/
def Answered (reply : Shell.Output) (shown : String) : Prop := reply.code = 0 ∧ shown = printedText reply.out

/-- The questions about the link, and why it is not known. -/
inductive LinkUnknown (l : SshLogin) : List Exchange → SwitchError → Prop where
  /-- A login with a NUL is not made. -/
  | notAsked : l.hasNul = true →
    LinkUnknown l [] (.shellExec (l.commandLine (remote showMlag)) "nul byte found in provided data")
  | mlagRefused {reply : Shell.Output} : reply.code ≠ 0 →
    LinkUnknown l [⟨l.remoteRun (remote showMlag), reply⟩] (l.refused (remote showMlag) reply)
  | noLink {reply : Shell.Output} {shown : String} : Answered reply shown → readLink shown.toList = none →
    LinkUnknown l [⟨l.remoteRun (remote showMlag), reply⟩]
      (.unexpectedOutput showMlag "MLAG port channel information not found")
  | channelsRefused {reply reply' : Shell.Output} {shown : String} : Answered reply shown →
    (readLink shown.toList).isSome → reply'.code ≠ 0 →
    LinkUnknown l [⟨l.remoteRun (remote showMlag), reply⟩, ⟨l.remoteRun (remote showChannels), reply'⟩]
      (l.refused (remote showChannels) reply')
  | noPorts {reply reply' : Shell.Output} {shown summary : String} {channel : Nat} {vlan : VlanId} :
    Answered reply shown → readLink shown.toList = some (channel, vlan) →
    Answered reply' summary → readMembers summary.toList channel = [] →
    LinkUnknown l [⟨l.remoteRun (remote showMlag), reply⟩, ⟨l.remoteRun (remote showChannels), reply'⟩]
      (.unexpectedOutput showChannels "MLAG IPL port channel information not found")

/-- The questions about the link, and the link that the answers name. -/
inductive LinkKnown (l : SshLogin) : List Exchange → PeerLink → Prop where
  | found {reply reply' : Shell.Output} {shown summary : String} {link : PeerLink} :
    Answered reply shown → readLink shown.toList = some (link.channel, link.vlan) →
    Answered reply' summary → readMembers summary.toList link.channel = link.ports → link.ports ≠ [] →
    LinkKnown l [⟨l.remoteRun (remote showMlag), reply⟩, ⟨l.remoteRun (remote showChannels), reply'⟩] link

variable {ν : Type} (net : Network ν) (host : String) {l : SshLogin}

theorem mlag_mem_showCommands : showMlag ∈ showCommands := by decide

theorem channels_mem_showCommands : showChannels ∈ showCommands := by decide

theorem act_deconfigureMlag (d : Driver) (m : Machine ν) :
    d.act net .deconfigureMlag m = d.move net .takeDownMlag m := by
  rw [Driver.act, moves, Driver.run]
  rcases d.move net .takeDownMlag m with ⟨_ | _, m'⟩ <;> rfl

/-- Commands are carried out one after the other, up to the first that is refused. -/
theorem carried_commands (hnul : l.hasNul = false) {cs : List String} (hcs : ∀ c ∈ cs, Shell.hasNul c = false)
    (m : Machine ν) :
    ∃ es, Exchanged net m ((sender host l).commands net cs m).2 es ∧
      Carried host l (cs.map .send) es ((sender host l).commands net cs m).1 := by
  rw [← Driver.run_sendAll]
  refine carried_run net host hnul (performs_sendAll cs) (fun c hc => ?_) m
  obtain ⟨c', hc', heq⟩ := List.mem_map.1 hc
  cases heq
  exact hcs c hc'

/-- The link is known just if both questions are answered and the answers name it. -/
theorem findLink_cases (m : Machine ν) :
    ∃ es m', Exchanged net m m' es ∧
      ((∃ why, (sender host l).findLink net m = (.error why, m') ∧ LinkUnknown l es why) ∨
        ∃ link, l.hasNul = false ∧ (sender host l).findLink net m = (.ok (some link), m') ∧ LinkKnown l es link) := by
  cases hnul : l.hasNul with
  | true =>
    have hquery : (sender host l).query net showMlag m =
        (.error (.shellExec (l.commandLine (remote showMlag)) "nul byte found in provided data"), m) := by
      rw [Dialogue.query_eq, Driver.command_of_hasNul net host hnul]
    exact ⟨[], m, .nil m, .inl ⟨_, by rw [Driver.findLink, hquery], .notAsked hnul⟩⟩
  | false =>
    obtain ⟨reply, m₁, hsaid, ⟨hcode, hquery⟩ | ⟨hcode, hquery⟩⟩ :=
      Driver.query_cases net host hnul mlag_mem_showCommands m
    · generalize hshown : printedText reply.out = shown at hquery
      rcases hlink : readLink shown.toList with _ | ⟨channel, vlan⟩
      · refine ⟨_, m₁, hsaid, .inl ⟨_, ?_, .noLink ⟨hcode, hshown.symm⟩ hlink⟩⟩
        rw [Driver.findLink, hquery]
        simp only [hlink]
      · obtain ⟨reply', m₂, hsaid', ⟨hcode', hquery'⟩ | ⟨hcode', hquery'⟩⟩ :=
          Driver.query_cases net host hnul channels_mem_showCommands m₁
        · generalize hsummary : printedText reply'.out = summary at hquery'
          have hfound : (sender host l).findLink net m =
              if (readMembers summary.toList channel).isEmpty then
                (.error (.unexpectedOutput showChannels "MLAG IPL port channel information not found"), m₂)
              else (.ok (some ⟨channel, vlan, readMembers summary.toList channel⟩), m₂) := by
            rw [Driver.findLink, hquery]
            simp only [hlink, hquery', Option.getD_some]
          refine ⟨_, m₂, hsaid.trans hsaid', ?_⟩
          by_cases hports : readMembers summary.toList channel = []
          · rw [if_pos (List.isEmpty_iff.2 hports)] at hfound
            exact .inl ⟨_, hfound, .noPorts ⟨hcode, hshown.symm⟩ hlink ⟨hcode', hsummary.symm⟩ hports⟩
          · rw [if_neg (by simpa using hports)] at hfound
            exact .inr ⟨_, rfl, hfound, .found ⟨hcode, hshown.symm⟩ hlink ⟨hcode', hsummary.symm⟩ rfl hports⟩
        · refine ⟨_, m₂, hsaid.trans hsaid', .inl ⟨_, ?_, .channelsRefused ⟨hcode, hshown.symm⟩ ?_ hcode'⟩⟩
          · rw [Driver.findLink, hquery]
            simp only [hlink, hquery']
          · rw [hlink]
            rfl
    · exact ⟨_, m₁, hsaid, .inl ⟨_, by rw [Driver.findLink, hquery], .mlagRefused hcode⟩⟩

theorem tornDown_act (m : Machine ν) :
    ∃ es, Exchanged net m ((sender host l).act net .deconfigureMlag m).2 es ∧
      ((∃ why, ((sender host l).act net .deconfigureMlag m).1 = .error why ∧ LinkUnknown l es why) ∨
        ∃ questions link commands, es = questions ++ commands ∧ LinkKnown l questions link ∧
          Carried host l ((deconfigureMlag link).map .send) commands
            ((sender host l).act net .deconfigureMlag m).1) := by
  rw [act_deconfigureMlag, Driver.move]
  obtain ⟨es, m', hes, ⟨why, hfind, hunknown⟩ | ⟨link, hnul, hfind, hknown⟩⟩ :=
    findLink_cases net host m
  · rw [hfind]
    exact ⟨es, hes, .inl ⟨why, rfl, hunknown⟩⟩
  · obtain ⟨es', hes', hcarried⟩ := carried_commands net host hnul
      (fun c hc => (worded_deconfigureMlag link c hc).1.hasNul) m'
    rw [hfind]
    exact ⟨es ++ es', hes.trans hes', .inr ⟨es, link, es', rfl, hknown, hcarried⟩⟩

/-- The answer that names a link counts as configured. -/
theorem isMlagConfigured_of_answered (hnul : l.hasNul = false) {m : Machine ν} {shown : String}
    (h : Answered (net.answer (l.remoteRun (remote showMlag)) m.network).1 shown) :
    ((sender host l).isMlagConfigured net m).1 = .ok (readLink shown.toList).isSome := by
  obtain ⟨reply, m', hsaid, hquery⟩ := Driver.query_cases net host hnul mlag_mem_showCommands m
  obtain ⟨hcode, rfl⟩ : Answered reply shown := by
    have hreplies := hsaid.replies
    simp only [List.map_cons, List.map_nil, Network.exchanges, List.cons.injEq, Exchange.mk.injEq, true_and,
      and_true] at hreplies
    rwa [← hreplies]
  obtain ⟨-, hquery⟩ | ⟨hrefused, -⟩ := hquery
  · simp only [Driver.isMlagConfigured, hquery, Option.any_some]
  · exact absurd hcode hrefused

/-- Taking MLAG down changes nothing unless the link is known: then the commands for this link are sent up to the first
that is refused. MLAG counts as configured just if the answer to the first question names a link. A driver that
collects does nothing. -/
theorem teardown_exact (net : Network ν) (host : String) (l : SshLogin) (m : Machine ν) :
    (∃ es, Exchanged net m ((sender host l).act net .deconfigureMlag m).2 es ∧
      ((∃ why, ((sender host l).act net .deconfigureMlag m).1 = .error why ∧ LinkUnknown l es why) ∨
        ∃ questions link commands, es = questions ++ commands ∧ LinkKnown l questions link ∧
          Carried host l ((deconfigureMlag link).map .send) commands
            ((sender host l).act net .deconfigureMlag m).1)) ∧
      (∀ link, FreesFirst link) ∧
      (∀ (m : Machine ν) shown, l.hasNul = false →
        Answered (net.answer (l.remoteRun (remote showMlag)) m.network).1 shown →
        ((sender host l).isMlagConfigured net m).1 = .ok (readLink shown.toList).isSome) ∧
      ∀ path, (collector host path).act net .deconfigureMlag m = (.ok (), m) :=
  ⟨tornDown_act net host m, freesFirst, fun _ _ hnul => isMlagConfigured_of_answered net host hnul, fun _ => rfl⟩

end SwitchFabric.Onyx
