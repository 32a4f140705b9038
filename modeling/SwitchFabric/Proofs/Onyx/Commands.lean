import SwitchFabric.Onyx.Moves
import SwitchFabric.Proofs.Delivery

/-!
# The commands of a call

All commands that a call sends are written with letters, digits and a few other characters (`Worded`), and none of them
is a show command (`sendable_of_mem_commandsOf`). So there is no NUL in them (`hasNul_of_mem_commandsOf`), and none of
the characters that double quotes do not protect. The line that runs a command on a switch reads there as four words, of
which the last is the command (`splits_remote`), and is what a login runs (`remoteRun_remote`).
-/

namespace SwitchFabric

/-- Double quotes protect all characters of the text. -/
def Shell.Plain (s : String) : Prop := ∀ c ∈ s.toList, Shell.needsBackslash c = false

instance (s : String) : Decidable (Shell.Plain s) := List.decidableBAll (Shell.needsBackslash · = false) s.toList

/-! ## Spelling -/

/-- The characters that commands are written with. -/
def isCommandChar (c : Char) : Bool :=
  c.isAlphanum || c == ' ' || c == '-' || c == '/' || c == '.' || c == ':'

/-- The text is written with these characters. -/
def Spelled (s : String) : Prop := ∀ c ∈ s.toList, isCommandChar c = true

instance (s : String) : Decidable (Spelled s) := List.decidableBAll (isCommandChar · = true) s.toList

theorem spelled_append {s t : String} : Spelled (s ++ t) ↔ Spelled s ∧ Spelled t := by
  simp [Spelled, or_imp, forall_and]

theorem needsBackslash_of_isCommandChar {c : Char} (h : isCommandChar c = true) : Shell.needsBackslash c = false := by
  simp only [Shell.needsBackslash, Bool.or_eq_false_iff, beq_eq_false_iff_ne]
  refine ⟨⟨⟨⟨?_, ?_⟩, ?_⟩, ?_⟩, ?_⟩ <;> rintro rfl <;> revert h <;> decide

theorem Spelled.plain {s : String} (h : Spelled s) : Shell.Plain s := fun c hc =>
  needsBackslash_of_isCommandChar (h c hc)

theorem Spelled.hasNul {s : String} (h : Spelled s) : Shell.hasNul s = false := by
  have hnul : ¬ isCommandChar '\x00' = true := by decide
  rw [Shell.hasNul, List.contains_eq_mem, decide_eq_false_iff_not]
  exact fun hmem => hnul (h _ hmem)

/-! ## Numbers and addresses -/

theorem isCommandChar_of_mem_toDigits {b n : Nat} (hb : 1 < b) (hb' : b ≤ 16) :
    ∀ c ∈ Nat.toDigits b n, isCommandChar c = true := by
  have hdigit : ∀ d < 16, isCommandChar (Nat.digitChar d) = true := by decide
  induction n using Nat.strongRecOn with
  | ind n ih =>
    by_cases h : n < b
    · rw [Nat.toDigits_of_lt_base h]
      exact List.forall_mem_singleton.2 (hdigit n (by omega))
    · rw [Nat.toDigits_of_base_le hb (by omega)]
      have hmod : n % b < b := Nat.mod_lt n (by omega)
      exact List.forall_mem_append.2
        ⟨ih (n / b) (Nat.div_lt_self (by omega) hb), List.forall_mem_singleton.2 (hdigit _ (by omega))⟩

theorem isCommandChar_of_mem_digits {n : Nat} : ∀ c ∈ Text.digits n, isCommandChar c = true :=
  isCommandChar_of_mem_toDigits (by omega) (by omega)

theorem spelled_decimal (n : Nat) : Spelled (Text.decimal n) := by
  simpa [Spelled, Text.decimal] using isCommandChar_of_mem_digits

namespace Address

theorem V4.isCommandChar_print (v : V4) : ∀ c ∈ v.print, isCommandChar c = true := by
  have hdot : isCommandChar '.' = true := by decide
  simp only [print, List.forall_mem_append, List.forall_mem_cons]
  exact ⟨⟨⟨isCommandChar_of_mem_digits, hdot, isCommandChar_of_mem_digits⟩, hdot, isCommandChar_of_mem_digits⟩,
    hdot, isCommandChar_of_mem_digits⟩

theorem V6.isCommandChar_printGroups (gs : List UInt16) : ∀ c ∈ printGroups gs, isCommandChar c = true := by
  have hcolon : isCommandChar ':' = true := by decide
  have hgroup (g : UInt16) : ∀ c ∈ hexDigits g, isCommandChar c = true :=
    isCommandChar_of_mem_toDigits (by omega) (by omega)
  fun_induction printGroups gs with
  | case1 => simp
  | case2 g => exact hgroup g
  | case3 g gs _ ih => exact List.forall_mem_append.2 ⟨hgroup g, List.forall_mem_cons.2 ⟨hcolon, ih⟩⟩

theorem V6.isCommandChar_print (v : V6) : ∀ c ∈ v.print, isCommandChar c = true := by
  have hcolon : isCommandChar ':' = true := by decide
  rw [print]
  split
  · next w _ => exact List.forall_mem_append.2 ⟨List.all_eq_true.1 (by decide), w.isCommandChar_print⟩
  · dsimp only
    split
    · simp only [List.forall_mem_append, List.forall_mem_cons]
      exact ⟨isCommandChar_printGroups _, hcolon, hcolon, isCommandChar_printGroups _⟩
    · exact isCommandChar_printGroups _

end Address

theorem IpAddress.spelled_toText (a : IpAddress) : Spelled a.toText := by
  cases a with
  | v4 v => simpa [Spelled, toText] using v.isCommandChar_print
  | v6 v => simpa [Spelled, toText] using v.isCommandChar_print

theorem VlanId.spelled_toText (v : VlanId) : Spelled v.toText := spelled_decimal _

namespace Onyx

open Shell (Plain)

/-- The text is spelled like a command, and does not start as show commands do. -/
def Worded (c : String) : Prop := Spelled c ∧ c.toList.head?.any (· != 's') = true

instance (c : String) : Decidable (Worded c) := inferInstanceAs (Decidable (_ ∧ _))

theorem Worded.append {s t : String} (hs : Worded s) (ht : Spelled t) : Worded (s ++ t) := by
  refine ⟨spelled_append.2 ⟨hs.1, ht⟩, ?_⟩
  have hhead := hs.2
  cases h : s.toList with
  | nil => simp [h] at hhead
  | cons c cs => simpa [h] using hhead

theorem worded_ethernet (port : Nat) : Worded (ethernet port) :=
  Worded.append (by decide) (spelled_decimal port)

theorem worded_interface (kind : Bundle) (channel : Nat) : Worded (kind.interface channel) := by
  cases kind <;> exact Worded.append (by decide) (spelled_decimal channel)

theorem worded_vlanInterface (v : VlanId) : Worded (vlanInterface v) :=
  Worded.append (by decide) v.spelled_toText

theorem spelled_mtuWord (m : Mtu) : Spelled (mtuWord m) := by
  rw [mtuWord]
  split
  · decide
  · exact spelled_append.2 ⟨by decide, spelled_decimal _⟩

theorem spelled_networkWords (p : IpPrefix) : Spelled (networkWords p) :=
  spelled_append.2 ⟨spelled_append.2 ⟨p.address.spelled_toText, by decide⟩, spelled_decimal _⟩

/-! ## The commands one by one -/

theorem worded_createVlan (v : VlanId) : Worded (createVlan v) := .append (by decide) v.spelled_toText

theorem worded_deleteVlan (v : VlanId) : Worded (deleteVlan v) := .append (by decide) v.spelled_toText

theorem worded_setMode (port : Nat) (mode : SwitchportMode) : Worded (setMode port mode) :=
  ((worded_ethernet port).append (by decide)).append (by cases mode <;> decide)

theorem worded_allowVlan (port : Nat) (v : VlanId) : Worded (allowVlan port v) :=
  ((worded_ethernet port).append (by decide)).append v.spelled_toText

theorem worded_forbidVlan (port : Nat) (v : VlanId) : Worded (forbidVlan port v) :=
  ((worded_ethernet port).append (by decide)).append v.spelled_toText

theorem worded_setMtu (port : Nat) (m : Mtu) : ∀ c ∈ setMtu port m, Worded c := by
  have hport := worded_ethernet port
  simp only [setMtu, List.forall_mem_cons, List.not_mem_nil, false_implies, implies_true, and_true]
  exact ⟨hport.append (by decide), (hport.append (by decide)).append (spelled_mtuWord m), hport.append (by decide)⟩

theorem worded_createLag (channel : Nat) : Worded (createLag channel) := worded_interface .lag channel

theorem worded_removeLag (channel : Nat) : Worded (removeLag channel) :=
  .append (by decide) (worded_createLag channel).1

theorem worded_unbindPort (port : Nat) : Worded (unbindPort port) := (worded_ethernet port).append (by decide)

theorem worded_bindToLag (port channel : Nat) : Worded (bindToLag port channel) :=
  (((worded_ethernet port).append (by decide)).append (spelled_decimal channel)).append (by decide)

theorem worded_setChannelVlans (kind : Bundle) (channel : Nat) (vlans : List VlanId) :
    ∀ c ∈ setChannelVlans kind channel vlans, Worded c := by
  have hchannel := worded_interface kind channel
  simp only [setChannelVlans, List.forall_mem_cons, List.forall_mem_map]
  exact ⟨hchannel.append (by decide), fun v _ => (hchannel.append (by decide)).append v.spelled_toText⟩

theorem worded_setChannelMtu (kind : Bundle) (channel : Nat) (m : Mtu) : Worded (setChannelMtu kind channel m) :=
  (((worded_interface kind channel).append (by decide)).append (spelled_mtuWord m)).append (by decide)

theorem worded_createMlagChannel (channel : Nat) : ∀ c ∈ createMlagChannel channel, Worded c := by
  have hchannel := worded_interface .mlag channel
  simp only [createMlagChannel, List.forall_mem_cons, List.not_mem_nil, false_implies, implies_true, and_true]
  exact ⟨hchannel, hchannel.append (by decide), hchannel.append (by decide)⟩

theorem worded_removeMlagChannel (channel : Nat) : Worded (removeMlagChannel channel) :=
  .append (by decide) (worded_interface .mlag channel).1

theorem worded_bindToMlag (port channel : Nat) : ∀ c ∈ bindToMlag port channel, Worded c := by
  simp only [bindToMlag, List.forall_mem_cons, List.not_mem_nil, false_implies, implies_true, and_true]
  exact ⟨(((worded_ethernet port).append (by decide)).append (spelled_decimal channel)).append (by decide),
    (worded_interface .mlag channel).append (by decide)⟩

theorem worded_setVip (vip : Option IpPrefix) : Worded (setVip vip) := by
  cases vip with
  | none => decide
  | some vip => exact Worded.append (Worded.append (by decide) (spelled_networkWords vip)) (by decide)

theorem worded_configureMlag (p : MlagParams) : ∀ c ∈ configureMlag p, Worded c := by
  have hchannel := worded_interface .lag p.channel
  have hvlan := worded_vlanInterface p.vlan
  simp only [configureMlag, List.forall_mem_append, List.forall_mem_cons, List.forall_mem_map, List.not_mem_nil,
    false_implies, implies_true, and_true]
  refine ⟨⟨⟨by decide, by decide, by decide, worded_createVlan p.vlan, worded_createLag p.channel⟩,
    fun port _ => worded_bindToLag port p.channel⟩, ?_⟩
  exact ⟨hchannel.append (by decide), hchannel.append (by decide), hvlan,
    (hvlan.append (by decide)).append (spelled_networkWords p.cidr),
    (hvlan.append (by decide)).append p.peerIp.spelled_toText, worded_setVip p.vip⟩

theorem worded_deconfigureMlag (l : PeerLink) : ∀ c ∈ deconfigureMlag l, Worded c := by
  have hchannel := worded_interface .lag l.channel
  have hvlan := worded_vlanInterface l.vlan
  simp only [deconfigureMlag, List.forall_mem_append, List.forall_mem_cons, List.forall_mem_map, List.not_mem_nil,
    false_implies, implies_true, and_true]
  exact ⟨⟨⟨by decide, by decide, hvlan.append (by decide), hvlan.append (by decide), .append (by decide) hvlan.1,
      hchannel.append (by decide), hchannel.append (by decide)⟩, fun port _ => worded_unbindPort port⟩,
    worded_removeLag l.channel, worded_deleteVlan l.vlan, by decide, by decide⟩

/-! ## The commands of a call -/

/-- The command of a move that sends one. -/
def Move.command? : Move → Option String
  | .send c => some c
  | .expect _ _ | .takeDownMlag => none

/-- The commands that a call sends, whatever the switch answers. -/
def commandsOf : Call → List String
  | .act a => (moves a).filterMap Move.command?
  | .isMlagConfigured => []

theorem mem_commandsOf {a : Action} {c : String} : c ∈ commandsOf (.act a) ↔ .send c ∈ moves a := by
  rw [commandsOf, List.mem_filterMap]
  constructor
  · rintro ⟨move, hmove, h⟩
    cases move <;> cases h
    exact hmove
  · exact fun h => ⟨_, h, rfl⟩

/-- The commands of an action, from the functions that make them. -/
def commandList : Action → List String
  | .createVlan v => [createVlan v]
  | .deleteVlan v => [deleteVlan v]
  | .setSwitchportMode port mode => [setMode port mode]
  | .addVlansToPort port vlans => vlans.map (allowVlan port)
  | .removeVlansFromPort port vlans => vlans.map (forbidVlan port)
  | .setMtuForPort port mtu => setMtu port mtu
  | .configureMlag p => configureMlag p
  | .enableMlag => [enableMlag]
  | .deconfigureMlag => []
  | .createLagInterface channel => [createLag channel]
  | .removeLagInterface channel => [removeLag channel]
  | .removeChannelGroup port => [unbindPort port]
  | .bindPortsToLagInterface ports channel => ports.map (bindToLag · channel)
  | .addVlansToLagPortChannel channel vlans => setChannelVlans .lag channel vlans
  | .setMtuForLagPortChannel channel mtu => [setChannelMtu .lag channel mtu]
  | .createMlagInterface channel => createMlagChannel channel
  | .removeMlagInterface channel => [removeMlagChannel channel]
  | .bindPortToMlagInterface port channel => bindToMlag port channel
  | .addVlansToMlagPortChannel channel vlans => setChannelVlans .mlag channel vlans
  | .setMtuForMlagPortChannel channel mtu => [setChannelMtu .mlag channel mtu]

theorem filterMap_sendAll (cs : List String) : (sendAll cs).filterMap Move.command? = cs := by
  rw [sendAll, List.filterMap_map]
  exact List.filterMap_some

theorem commandsOf_act (a : Action) : commandsOf (.act a) = commandList a := by
  cases a with
  | addVlansToPort port vlans | removeVlansFromPort port vlans =>
    rw [commandsOf, commandList, moves, List.filterMap_flatMap, List.map_eq_flatMap]
    rfl
  | configureMlag p =>
    rw [commandsOf, commandList, moves, List.filterMap_append, filterMap_sendAll]
    exact List.append_nil _
  | setMtuForPort | bindPortsToLagInterface | addVlansToLagPortChannel | createMlagInterface | bindPortToMlagInterface
  | addVlansToMlagPortChannel => exact filterMap_sendAll _
  | _ => rfl

theorem worded_commandList (a : Action) : ∀ c ∈ commandList a, Worded c := by
  cases a with
  | createVlan v => exact List.forall_mem_singleton.2 (worded_createVlan v)
  | deleteVlan v => exact List.forall_mem_singleton.2 (worded_deleteVlan v)
  | setSwitchportMode port mode => exact List.forall_mem_singleton.2 (worded_setMode port mode)
  | addVlansToPort port vlans => exact List.forall_mem_map.2 fun v _ => worded_allowVlan port v
  | removeVlansFromPort port vlans => exact List.forall_mem_map.2 fun v _ => worded_forbidVlan port v
  | setMtuForPort port mtu => exact worded_setMtu port mtu
  | configureMlag p => exact worded_configureMlag p
  | enableMlag => exact List.forall_mem_singleton.2 (by decide)
  | deconfigureMlag => exact nofun
  | createLagInterface channel => exact List.forall_mem_singleton.2 (worded_createLag channel)
  | removeLagInterface channel => exact List.forall_mem_singleton.2 (worded_removeLag channel)
  | removeChannelGroup port => exact List.forall_mem_singleton.2 (worded_unbindPort port)
  | bindPortsToLagInterface ports channel => exact List.forall_mem_map.2 fun port _ => worded_bindToLag port channel
  | addVlansToLagPortChannel channel vlans => exact worded_setChannelVlans .lag channel vlans
  | setMtuForLagPortChannel channel mtu => exact List.forall_mem_singleton.2 (worded_setChannelMtu .lag channel mtu)
  | createMlagInterface channel => exact worded_createMlagChannel channel
  | removeMlagInterface channel => exact List.forall_mem_singleton.2 (worded_removeMlagChannel channel)
  | bindPortToMlagInterface port channel => exact worded_bindToMlag port channel
  | addVlansToMlagPortChannel channel vlans => exact worded_setChannelVlans .mlag channel vlans
  | setMtuForMlagPortChannel channel mtu =>
    exact List.forall_mem_singleton.2 (worded_setChannelMtu .mlag channel mtu)

theorem worded_of_mem_commandsOf {call : Call} {c : String} (h : c ∈ commandsOf call) : Worded c := by
  cases call with
  | isMlagConfigured => cases h
  | act a =>
    rw [commandsOf_act] at h
    exact worded_commandList a c h

/-- The text can be sent: double quotes protect it, and it does not start as show commands do. -/
def Sendable (c : String) : Prop := Plain c ∧ c.toList.head?.any (· != 's') = true

instance (c : String) : Decidable (Sendable c) := inferInstanceAs (Decidable (_ ∧ _))

theorem sendable_of_mem_commandsOf {call : Call} {c : String} (h : c ∈ commandsOf call) : Sendable c :=
  have hwritten := worded_of_mem_commandsOf h
  ⟨hwritten.1.plain, hwritten.2⟩

theorem hasNul_of_mem_commandsOf {call : Call} {c : String} (h : c ∈ commandsOf call) : Shell.hasNul c = false :=
  (worded_of_mem_commandsOf h).1.hasNul

/-! ## The line that runs a command -/

/-- There is no NUL in the line unless there is one in the command. -/
theorem hasNul_remote (c : String) : Shell.hasNul (remote c) = Shell.hasNul c := by
  have happend (s t : String) : Shell.hasNul (s ++ t) = (Shell.hasNul s || Shell.hasNul t) := by
    simp [Shell.hasNul, Bool.decide_or]
  have hfront : Shell.hasNul "cli enable \"configure terminal\" \"" = false := by decide
  have hquote : Shell.hasNul "\"" = false := by decide
  have hremote : remote c = "cli enable \"configure terminal\" \"" ++ c ++ "\"" := rfl
  simp only [hremote, happend, hfront, hquote, Bool.false_or, Bool.or_false]

theorem feed_notMem {c : String} (h : Plain c) : '\n' ∉ c.toList := by
  intro hfeed
  have hneeds := h _ hfeed
  revert hneeds
  decide

theorem quote_plain {c : String} (h : Plain c) : Shell.quote c.toList = '\x22' :: c.toList ++ ['\x22'] := by
  have hsame : ∀ cs : List Char, (∀ d ∈ cs, Shell.needsBackslash d = false) → cs.flatMap Shell.quotedChar = cs := by
    intro cs hcs
    induction cs with
    | nil => rfl
    | cons d cs ih =>
      obtain ⟨hd, hcs⟩ := List.forall_mem_cons.1 hcs
      rw [List.flatMap_cons, ih hcs, Shell.quotedChar, hd]
      rfl
  rw [Shell.quote, hsame c.toList h]

/-- The words of the line that runs a command. -/
def remoteWords (c : String) : List Shell.Lexeme :=
  [.ordinary "cli".toList, .ordinary "enable".toList, .quoted "configure terminal".toList, .quoted c.toList]

theorem toList_remote (c : String) :
    (remote c).toList = "cli enable \"configure terminal\" \"".toList ++ (c.toList ++ ['\x22']) := by
  have hquote : "\"".toList = ['\x22'] := by decide
  have hremote : remote c = "cli enable \"configure terminal\" \"" ++ c ++ "\"" := rfl
  rw [hremote, String.toList_append, String.toList_append, List.append_assoc, hquote]

theorem toList_remote_of_plain {c : String} (h : Plain c) : (remote c).toList = Shell.joined (remoteWords c) := by
  have hfront : "cli enable \"configure terminal\" \"".toList =
      "cli".toList ++ [' '] ++ ("enable".toList ++ [' '] ++
        (Shell.quote "configure terminal".toList ++ [' '] ++ ['\x22'])) := by decide
  have hjoined : Shell.joined (remoteWords c) =
      "cli".toList ++ [' '] ++ ("enable".toList ++ [' '] ++
        (Shell.quote "configure terminal".toList ++ [' '] ++ Shell.quote c.toList)) := by
    simp only [Shell.joined, remoteWords, List.map_cons, List.map_nil, Shell.Lexeme.text, List.intercalate_cons_cons,
      List.intercalate_singleton]
  rw [hjoined, quote_plain h, toList_remote, hfront]
  simp only [List.append_assoc, List.cons_append, List.nil_append]

/-- The shell of a switch reads the line that runs a command as four words. -/
theorem splits_remote {c : String} (h : Plain c) :
    Shell.Splits (remote c).toList ["cli", "enable", "configure terminal", c] := by
  have hc : String.ofList (c.toList.filter (· != '\n')) = c := by
    rw [List.filter_bne_eq_self_of_not_mem (feed_notMem h), String.ofList_toList]
  have hfields : (remoteWords c).map Shell.Lexeme.field = ["cli", "enable", "configure terminal", c] := by
    show ["cli", "enable", "configure terminal", String.ofList (c.toList.filter (· != '\n'))] = _
    rw [hc]
  rw [toList_remote_of_plain h, ← hfields]
  refine Shell.splits_joined (fun x hx => ?_) (by decide)
  rcases List.mem_cons.1 hx with rfl | hx
  · decide
  · rcases List.mem_cons.1 hx with rfl | hx
    · decide
    · rcases List.mem_cons.1 hx with rfl | hx
      · trivial
      · rw [List.mem_singleton.1 hx]
        trivial

theorem remote_inj {c d : String} (h : remote c = remote d) : c = d := by
  have hlist := congrArg String.toList h
  rw [toList_remote, toList_remote] at hlist
  exact String.toList_inj.1 (List.append_cancel_right (List.append_cancel_left hlist))

/-- A login runs the line that runs a command on the switch as it is. -/
theorem remoteRun_remote (l : SshLogin) {c : String} (h : Plain c) : (l.remoteRun (remote c)).command = remote c := by
  have hfeed : '\n' ∉ (remote c).toList := by
    have hfront : '\n' ∉ "cli enable \"configure terminal\" \"".toList := by decide
    rw [toList_remote]
    intro hm
    rcases List.mem_append.1 hm with hm | hm
    · exact hfront hm
    · rcases List.mem_append.1 hm with hm | hm
      · exact feed_notMem h hm
      · revert hm
        decide
  rw [SshLogin.remoteRun]
  show String.ofList ((remote c).toList.filter (· != '\n')) = remote c
  rw [List.filter_bne_eq_self_of_not_mem hfeed, String.ofList_toList]

end Onyx

end SwitchFabric
