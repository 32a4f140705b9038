import SwitchFabric.Proofs.Onyx.Modes

/-!
# Dialogues with a switch

What a driver that sends does in a call is a dialogue with its switch: commands, each of which may depend on what came
of the ones before. The dialogue of a call is known without the login that the commands are run by
(`Dialogue.play_calls`).
-/

namespace SwitchFabric.Onyx

variable {α β ν : Type}

/-- What comes of a call: a failure, or perhaps the answer to a question. -/
abbrev Answer := Except SwitchError (Option Bool)

namespace Driver

variable (net : Network ν) (d : Driver)

/-- Make a call, and keep what it answers. An action answers nothing. -/
def answer : Call → Machine ν → Answer × Machine ν
  | .act a, m =>
    let (result, m) := d.act net a m
    (result.map fun _ => none, m)
  | .isMlagConfigured, m =>
    let (result, m) := d.isMlagConfigured net m
    (result.map some, m)

/-- Make calls, whatever comes of them. -/
def answers : List Call → Machine ν → List Answer × Machine ν
  | [], m => ([], m)
  | c :: cs, m =>
    let (result, m) := d.answer net c m
    let (results, m) := answers cs m
    (result :: results, m)

end Driver

/-- Commands for a switch. What comes next depends on what came of the command. -/
inductive Dialogue (α : Type) where
  | done (a : α)
  | run (command : String) (next : Except SwitchError String → Dialogue α)

namespace Dialogue

/-- Let a driver run the commands. -/
def play (net : Network ν) (d : Driver) : Dialogue α → Machine ν → α × Machine ν
  | done a, m => (a, m)
  | run c next, m =>
    let (result, m) := d.command net c m
    play net d (next result) m

/-- Go on with what came of a dialogue. -/
def bind : Dialogue α → (α → Dialogue β) → Dialogue β
  | done a, k => k a
  | run c next, k => run c fun result => (next result).bind k

/-- Go on if nothing failed. -/
def andThen (s : Dialogue (Except SwitchError α)) (k : α → Dialogue (Except SwitchError β)) :
    Dialogue (Except SwitchError β) :=
  s.bind fun
    | .error e => done (.error e)
    | .ok a => k a

/-- One command, and what came of it. -/
def ask (c : String) : Dialogue (Except SwitchError String) := run c done

/-! ## The dialogues of calls -/

/-- The commands up to the first that fails. -/
def commands : List String → Dialogue (Except SwitchError Unit)
  | [] => done (.ok ())
  | c :: cs => (ask c).andThen fun _ => commands cs

/-- The link is asked for by name, and then its ports. -/
def findLink : Dialogue (Except SwitchError PeerLink) :=
  (ask showMlag).andThen fun shown =>
    match readLink shown.toList with
    | none => done (.error (.unexpectedOutput showMlag "MLAG port channel information not found"))
    | some (channel, vlan) =>
      (ask showChannels).andThen fun summary =>
        let ports := readMembers summary.toList channel
        if ports.isEmpty then
          done (.error (.unexpectedOutput showChannels "MLAG IPL port channel information not found"))
        else done (.ok ⟨channel, vlan, ports⟩)

/-- What comes of reading a state back. -/
def verdict (host failure : String) : Except SwitchError Bool → Except SwitchError Unit
  | .error e => .error e
  | .ok true => .ok ()
  | .ok false => .error (.verification host failure)

/-- What a move says to the switch. -/
def move (host : String) : Move → Dialogue (Except SwitchError Unit)
  | .send c => commands [c]
  | .expect e failure => (ask e.query).andThen fun shown => done (verdict host failure (e.holds shown))
  | .takeDownMlag => findLink.andThen fun link => commands (deconfigureMlag link)

/-- The moves up to the first that fails. -/
def moves (host : String) : List Move → Dialogue (Except SwitchError Unit)
  | [] => done (.ok ())
  | m :: ms => (move host m).andThen fun _ => moves host ms

/-- What a call says to the switch. An action answers nothing, and a question whether there is a
link. -/
def call (host : String) : Call → Dialogue Answer
  | .act a => (moves host (Onyx.moves a)).andThen fun _ => done (.ok none)
  | .isMlagConfigured => (ask showMlag).andThen fun shown => done (.ok (some (readLink shown.toList).isSome))

/-- All calls in turn, whatever comes of each. -/
def calls (host : String) : List Call → Dialogue (List Answer)
  | [] => done []
  | c :: cs => (call host c).bind fun result => (calls host cs).bind fun results => done (result :: results)

/-! ## Playing -/

section

variable (net : Network ν) (d : Driver)

theorem play_bind (s : Dialogue α) (k : α → Dialogue β) (m : Machine ν) :
    (s.bind k).play net d m = (k (s.play net d m).1).play net d (s.play net d m).2 := by
  induction s generalizing m with
  | done a => rfl
  | run c next ih => exact ih _ _

theorem play_andThen (s : Dialogue (Except SwitchError α)) (k : α → Dialogue (Except SwitchError β)) (m : Machine ν) :
    (s.andThen k).play net d m =
      match s.play net d m with
      | (.error e, m) => (.error e, m)
      | (.ok a, m) => (k a).play net d m := by
  rw [andThen, play_bind]
  rcases s.play net d m with ⟨_ | a, m'⟩ <;> rfl

theorem play_ask (c : String) (m : Machine ν) : (ask c).play net d m = d.command net c m := rfl

theorem play_commands (cs : List String) (m : Machine ν) : (commands cs).play net d m = d.commands net cs m := by
  induction cs generalizing m with
  | nil => rfl
  | cons c cs ih =>
    rw [commands, play_andThen, play_ask, Driver.commands]
    rcases d.command net c m with ⟨_ | shown, m'⟩
    · rfl
    · exact ih m'

end

variable (net : Network ν) (host : String) (l : SshLogin)

/-- A driver that sends asks. -/
theorem query_eq (c : String) (m : Machine ν) :
    (sender host l).query net c m =
      match (sender host l).command net c m with
      | (.error e, m) => (.error e, m)
      | (.ok shown, m) => (.ok (some shown), m) := rfl

theorem findLink_eq (m : Machine ν) :
    (sender host l).findLink net m =
      match findLink.play net (sender host l) m with
      | (.error e, m) => (.error e, m)
      | (.ok link, m) => (.ok (some link), m) := by
  rw [Driver.findLink, query_eq, findLink, play_andThen, play_ask]
  rcases (sender host l).command net showMlag m with ⟨_ | shown, m'⟩
  · rfl
  · dsimp only
    rcases readLink shown.toList with _ | ⟨channel, vlan⟩
    · rfl
    · dsimp only
      rw [query_eq, play_andThen, play_ask]
      rcases (sender host l).command net showChannels m' with ⟨_ | summary, m''⟩
      · rfl
      · simp only [Option.getD_some]
        split <;> rfl

theorem play_move (move : Move) (m : Machine ν) :
    (Dialogue.move host move).play net (sender host l) m = (sender host l).move net move m := by
  cases move with
  | send c => exact play_commands net _ [c] m
  | expect e failure =>
    rw [Dialogue.move, play_andThen, play_ask, Driver.move, query_eq]
    rcases (sender host l).command net e.query m with ⟨_ | shown, m'⟩
    · rfl
    · dsimp only
      rcases e.holds shown with _ | _ | _ <;> rfl
  | takeDownMlag =>
    rw [Dialogue.move, play_andThen, Driver.move, findLink_eq]
    rcases findLink.play net (sender host l) m with ⟨_ | link, m'⟩
    · rfl
    · exact play_commands net _ (deconfigureMlag link) m'

theorem play_moves (ms : List Move) (m : Machine ν) :
    (moves host ms).play net (sender host l) m = (sender host l).run net ms m := by
  induction ms generalizing m with
  | nil => rfl
  | cons move ms ih =>
    rw [moves, play_andThen, play_move, Driver.run]
    rcases (sender host l).move net move m with ⟨_ | _, m'⟩
    · rfl
    · exact ih m'

theorem play_call (c : Call) (m : Machine ν) :
    (call host c).play net (sender host l) m = (sender host l).answer net c m := by
  cases c with
  | act a =>
    rw [call, play_andThen, play_moves, Driver.answer, Driver.act]
    rcases (sender host l).run net (Onyx.moves a) m with ⟨_ | _, m'⟩ <;> rfl
  | isMlagConfigured =>
    rw [call, play_andThen, play_ask, Driver.answer, Driver.isMlagConfigured, query_eq]
    rcases (sender host l).command net showMlag m with ⟨_ | shown, m'⟩ <;> rfl

/-- The calls of a driver that sends are a dialogue with its switch, whatever the login is. -/
theorem play_calls (cs : List Call) (m : Machine ν) :
    (calls host cs).play net (sender host l) m = (sender host l).answers net cs m := by
  induction cs generalizing m with
  | nil => rfl
  | cons c cs ih =>
    rw [calls, play_bind, play_call, play_bind, ih]
    rfl

end Dialogue

end SwitchFabric.Onyx
