import SwitchFabric.Program

/-!
# The executable

Runs the program on the files and the terminal of the process. The program itself is a function of the
lines that the operator has typed: where it waits for another line, what it has written is stored, what
it asks is shown, and it is run again with that line. No switch can be reached from here, so a login ends
as on a network that is down.
-/

namespace SwitchFabric.Executable

open Program

/-- The files that a run with some arguments may touch. -/
def filesFor (arguments : List String) (environment : Option String) : IO Files := do
  match (Arguments.read arguments).bind (configPath · environment) with
  | .error _ => return .empty
  | .ok path =>
    let files := Files.empty.withParents path
    try
      let files := files.create path (← IO.FS.readBinFile path).toList
      match Cluster.ofFile files path with
      | .ok c => return c.accessInfo.foldl (fun f a => f.withParents a.commandFile) files
      | .error _ => return files
    catch _ => return files

/-- Store what files have grown by. -/
def store (before after : Files) : IO Unit := do
  for (path, bytes) in before.growth after do
    let handle ← IO.FS.Handle.mk path .append
    handle.write ⟨bytes.toArray⟩

/-- The run has come to a question that no line answers yet. -/
def waits : Outcome → Bool
  | .failed (.deconfigure (.prompt .closed)) => true
  | _ => false

/-- Run with the lines typed so far, and again with one more while the run waits for it. -/
partial def converse (run : List UInt8 → Outcome × Session Unit) (stored : Files) (shown : Nat)
    (typed : List UInt8) : IO (Outcome × Session Unit) := do
  let (outcome, s) := run typed
  store stored s.machine.files
  IO.print (String.ofList (s.terminal.shown.toList.drop shown))
  (← IO.getStdout).flush
  if waits outcome then
    let line ← (← IO.getStdin).getLine
    if line.isEmpty then return (outcome, s)
    converse run s.machine.files s.terminal.shown.length (typed ++ Text.encode line)
  else return (outcome, s)

end SwitchFabric.Executable

open SwitchFabric in
/-- Run the program with the arguments, the files and the terminal of the process. -/
def main (arguments : List String) : IO UInt32 := do
  let environment ← IO.getEnv "DATA_SWITCH_CONFIG"
  let files ← Executable.filesFor arguments environment
  let run (typed : List UInt8) :=
    Program.run Network.down arguments environment ⟨⟨files, (), []⟩, ⟨typed, ""⟩, ""⟩
  let (outcome, s) ← Executable.converse run files 0 []
  IO.print s.printed
  match outcome with
  | .failed f => IO.eprintln ("ERROR " ++ f.message)
  | .refused .usage => IO.eprintln Program.helpText
  | _ => pure ()
  return outcome.code.toUInt32
