import SwitchFabric.Shell.Run
import SwitchFabric.Switch.Error

/-!
# Executing command lines

A command line is executed by a shell without input. What it prints counts as text, trimmed at both ends,
and a line that is killed ends with code -1. `execute` yields how the line ended, and `output` takes every
exit code but zero for a failure.
-/

namespace SwitchFabric.Shell

/-- How a command line ended, and what it printed. -/
structure ExecResult where
  exitCode : Int
  stdout : String
  stderr : String
  deriving DecidableEq

namespace ExecResult

/-- Only code zero counts as success. -/
def success (r : ExecResult) : Bool := r.exitCode == 0

/-- All that was printed, as a message shows it. -/
def combined (r : ExecResult) : String :=
  if r.stderr.isEmpty then r.stdout
  else if r.stdout.isEmpty then r.stderr
  else r.stdout ++ "\n" ++ r.stderr

end ExecResult

/-- Printed bytes as text. -/
def printedText (bytes : List UInt8) : String :=
  String.ofList (Text.trim (Text.decodeLenient bytes).toList)

/-- A killed line has no code of its own, and is given one that no program ends with. -/
def Ending.code : Ending → Int
  | .exited n => n
  | .killed => -1

/-- A text with a NUL character cannot be passed to a process. -/
def hasNul (s : String) : Bool := s.toList.contains '\x00'

variable {ω : Type} (programs : Programs ω)

/-- Execute a command line in an environment. -/
def execute (line : String) (environment : Environment) (s : ω) :
    Except SwitchError ExecResult × ω :=
  if hasNul line || environment.any fun (name, value) => hasNul name || hasNul value then
    (.error (.shellExec line "nul byte found in provided data"), s)
  else
    let (out, err, ending, s) := run programs environment line.toList s
    (.ok ⟨ending.code, printedText out, printedText err⟩, s)

/-- What a command line prints if it ends with code zero. -/
def output (line : String) (environment : Environment) (s : ω) : Except SwitchError String × ω :=
  match execute programs line environment s with
  | (.error e, s) => (.error e, s)
  | (.ok r, s) =>
    if r.success then (.ok r.stdout, s)
    else (.error (.commandFailed line r.exitCode r.combined), s)

end SwitchFabric.Shell
