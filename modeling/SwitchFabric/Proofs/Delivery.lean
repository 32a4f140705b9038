import SwitchFabric.Delivery
import SwitchFabric.Proofs.Shell.Words
import SwitchFabric.Proofs.Traversal

/-!
# What is delivered

A command over `ssh` that ends well is one login, in which the command is run as it is but for line feeds
(`send_ssh`). A command for a file is a line more at its end (`send_file`), as long as the file can be written, which
it stays (`Writable.append`).
-/

namespace SwitchFabric

open Shell (Lexeme joined Splits)

variable {ν : Type} (net : Network ν)

/-! ## Logins -/

namespace SshLogin

variable (l : SshLogin) (command : String)

/-- The words of the command line. -/
def lexemes : List Lexeme :=
  l.options.map (fun o => .ordinary o.toList) ++ [.quoted l.target.toList, .quoted command.toList]

/-- What is run in the login. -/
def remoteRun : RemoteRun where
  withPassword := l.password.isSome
  password := l.password
  login := String.ofList (l.target.toList.filter (· != '\n'))
  command := String.ofList (command.toList.filter (· != '\n'))

theorem toList_commandLine : (l.commandLine command).toList = joined (l.lexemes command) := by
  rw [commandLine, String.toList_intercalate, joined, lexemes, List.map_append, List.map_append, List.map_map]
  simp [quoted, Lexeme.text, Function.comp_def]

theorem lookup_environment : l.environment.lookup Machine.passwordVariable = l.password := by
  rw [environment]
  cases l.password <;> simp

/-- The program: `ssh`, or `sshpass` in front of it. -/
def program : String := if l.password.isSome then Machine.sshpassPath else Machine.sshPath

theorem options_eq : l.options = l.program :: l.options.tail := by
  rw [options, program]
  cases l.password.isSome <;> rfl

theorem wellFormed_options : ∀ o ∈ l.options, (Lexeme.ordinary o.toList).WellFormed := by
  rw [options]
  cases l.password.isSome <;> decide

theorem refusal_program : (Lexeme.ordinary l.program.toList).word.refusal = none := by
  rw [program]
  cases l.password.isSome <;> decide

/-- The shell takes the login and the command for one word each, whatever is in them. -/
theorem splits_commandLine :
    Splits (l.commandLine command).toList
      (l.program :: (l.options.tail ++ [(l.remoteRun command).login, (l.remoteRun command).command])) := by
  have hwell : ∀ x ∈ l.lexemes command, x.WellFormed := by
    intro x hx
    rcases List.mem_append.1 hx with hx | hx
    · obtain ⟨o, ho, rfl⟩ := List.mem_map.1 hx
      exact l.wellFormed_options o ho
    · simp only [List.mem_cons, List.not_mem_nil, or_false] at hx
      rcases hx with rfl | rfl <;> trivial
  have hfields : (l.lexemes command).map Lexeme.field =
      l.program :: (l.options.tail ++ [(l.remoteRun command).login, (l.remoteRun command).command]) := by
    rw [← List.cons_append, ← options_eq]
    simp [lexemes, Lexeme.field, remoteRun, Function.comp_def]
  have hcons : l.lexemes command = .ordinary l.program.toList :: (l.lexemes command).tail := by
    rw [lexemes, options_eq]
    rfl
  rw [toList_commandLine, ← hfields, hcons]
  rw [hcons] at hwell
  exact Shell.splits_joined hwell l.refusal_program

/-- The command line logs in once. -/
theorem run_commandLine (m : Machine ν) :
    Shell.run (Machine.programs net) l.environment (l.commandLine command).toList m =
      let (o, m') := Machine.logIn net (l.remoteRun command) m
      (o.out, o.err, .exited o.code, m') := by
  have hprogram : Machine.programs net l.program = some (Machine.ssh net l.password.isSome) := by
    rw [program]
    cases l.password.isSome <;> rfl
  have hexit : l.program ≠ "exit" := by
    rw [program]
    cases l.password.isSome <;> decide
  have hkill : l.program ≠ "kill" := by
    rw [program]
    cases l.password.isSome <;> decide
  rw [Shell.run_of_splits (l.splits_commandLine command) hprogram hexit hkill, Machine.ssh, List.reverse_append,
    lookup_environment]
  rfl

end SshLogin

/-- A command over `ssh` that ends well is run in one login. -/
theorem Delivery.send_ssh {l : SshLogin} {command answer : String} {m m' : Machine ν}
    (h : (Delivery.ssh l).send net command m = (.ok answer, m')) :
    m' = (Machine.logIn net (l.remoteRun command) m).2 := by
  rw [send, Shell.output, Shell.execute] at h
  split at h
  · cases h
  · next r s hexecute =>
    split at hexecute
    · cases hexecute
    · rw [l.run_commandLine net command m] at hexecute
      cases hexecute
      split at h
      · cases h
        rfl
      · cases h

/-! ## Files -/

namespace Files

variable {f f' : Files} {path : String} {p : Place}

/-- The path leads to a file at the place, or to where one can be made. -/
structure Writable (f : Files) (path : String) (p : Place) : Prop where
  locate : f.locate (withoutSlash path).1 = .ok p
  slash : (withoutSlash path).2 = false
  file : f.isDirectory p = false

instance (f : Files) (path : String) (p : Place) : Decidable (f.Writable path p) :=
  decidable_of_iff (f.locate (withoutSlash path).1 = .ok p ∧ (withoutSlash path).2 = false ∧ f.isDirectory p = false)
    ⟨fun ⟨locate, slash, file⟩ => ⟨locate, slash, file⟩, fun ⟨locate, slash, file⟩ => ⟨locate, slash, file⟩⟩

/-- The bytes at a place, if any. -/
def bytesAt (f : Files) (p : Place) : List UInt8 := (f.at? p).getD []

/-- A path leads to a place through directories only. -/
theorem walk_congr (h : f'.directories = f.directories) {here : Place} {components : List String}
    (hwalk : f.walk here components = .ok p) : f'.walk here components = .ok p := by
  have hdirectory (q : Place) : f'.isDirectory q = f.isDirectory q := by rw [isDirectory, h, isDirectory]
  induction components generalizing here with
  | nil => exact hwalk
  | cons component rest ih =>
    rw [walk] at hwalk ⊢
    rw [hdirectory]
    split at hwalk
    · next hhere =>
      rw [if_pos hhere]
      split at hwalk
      · cases hwalk
      · next hname =>
        rw [if_neg hname]
        exact ih hwalk
    · split at hwalk <;> cases hwalk

theorem locate_congr (h : f'.directories = f.directories) (hlocate : f.locate path = .ok p) :
    f'.locate path = .ok p := by
  rw [Files.locate] at hlocate ⊢
  split at hlocate
  · cases hlocate
  · next hnul =>
    rw [if_neg hnul]
    split at hlocate
    · cases hlocate
    · next hempty =>
      rw [if_neg hempty]
      split at hlocate
      · cases hlocate
      · next hlong =>
        rw [if_neg hlong]
        exact walk_congr h hlocate

/-- Appending adds the bytes behind the ones that were there, and the file can be appended to again. -/
theorem Writable.append (h : f.Writable path p) (bytes : List UInt8) :
    ∃ f', f.append path bytes = .ok f' ∧ f'.directories = f.directories ∧
      ∀ q, f'.bytesAt q = if q.toText = p.toText then f.bytesAt p ++ bytes else f.bytesAt q := by
  have happend : f.append path bytes =
      .ok { f with contents := f.contents.update p.toText fun old => old.getD [] ++ bytes } := by
    simp [Files.append, h.locate, h.slash, h.file, bind, Except.bind]
  refine ⟨_, happend, rfl, fun q => ?_⟩
  obtain ⟨p', hlocate, -, hat⟩ := at?_append happend
  obtain rfl : p = p' := by
    rw [h.locate] at hlocate
    cases hlocate
    rfl
  rw [bytesAt, hat]
  split <;> rfl

theorem Writable.congr (h : f.Writable path p) (hf : f'.directories = f.directories) : f'.Writable path p where
  locate := locate_congr hf h.locate
  slash := h.slash
  file := by
    rw [isDirectory, hf]
    exact h.file

end Files

/-- A command for a file is one more line of it. -/
theorem Delivery.send_file {path : String} {p : Place} {m : Machine ν} (h : m.files.Writable path p)
    (command : String) :
    ∃ files, (Delivery.file path).send net command m = (.ok "", { m with files := files }) ∧
      files.directories = m.files.directories ∧
      ∀ q, files.bytesAt q =
        if q.toText = p.toText then m.files.bytesAt p ++ Text.encode (command ++ "\n") else m.files.bytesAt q := by
  obtain ⟨files, happend, hdirectories, hbytes⟩ := h.append (Text.encode (command ++ "\n"))
  refine ⟨files, ?_, hdirectories, hbytes⟩
  rw [send, happend]

end SwitchFabric
