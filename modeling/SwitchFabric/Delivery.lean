import SwitchFabric.Machine.Network
import SwitchFabric.Shell.Quote
import SwitchFabric.Switch.Access

/-!
# Delivering commands

The commands for a switch are run on it by a login over `ssh`, or are collected in a file, a line each.
A password never stands on the command line: `sshpass` takes it from the environment.
-/

namespace SwitchFabric

/-- A login to a switch. -/
structure SshLogin where
  host : String
  userid : String
  password : Option String
  deriving DecidableEq

namespace SshLogin

/-- The destination in a form that SSH takes. -/
def target (l : SshLogin) : String := l.userid ++ "@" ++ l.host

/-- A word as a shell needs it, to pass it on unchanged. -/
def quoted (s : String) : String := String.ofList (Shell.quote s.toList)

/-- The words in front of the login: the program and its options. -/
def options (l : SshLogin) : List String :=
  (if l.password.isSome then [Machine.sshpassPath, "-e"] else []) ++
    [Machine.sshPath, "-o", "StrictHostKeyChecking=no", "-o", "UserKnownHostsFile=/dev/null"]

/-- The local command line that runs a command on the switch. -/
def commandLine (l : SshLogin) (command : String) : String :=
  " ".intercalate (l.options ++ [quoted l.target, quoted command])

/-- The variables that the command line needs. -/
def environment (l : SshLogin) : Shell.Environment :=
  (l.password.map fun p => (Machine.passwordVariable, p)).toList

end SshLogin

/-- Where the commands for a switch go. -/
inductive Delivery where
  | ssh (login : SshLogin)
  | file (path : String)
  deriving DecidableEq

namespace Delivery

/-- How commands are delivered with some access. A login needs a user. -/
def ofAccess (a : AccessInfo) : Except SwitchError Delivery :=
  match a.mode with
  | .passive => .ok (.file a.commandFile)
  | .active =>
    match a.userid with
    | some userid => .ok (.ssh ⟨a.host, userid, a.password⟩)
    | none => .error (.missingCredentials a.host)

/-- Commands are collected, and the switch is not reached. -/
def isPassive : Delivery → Bool
  | .ssh _ => false
  | .file _ => true

variable {ν : Type} (net : Network ν)

/-- Deliver a command; what the switch prints is the answer. A file answers nothing. -/
def send (d : Delivery) (command : String) (m : Machine ν) : Except SwitchError String × Machine ν :=
  match d with
  | .ssh l => Shell.output (Machine.programs net) (l.commandLine command) l.environment m
  | .file path =>
    match m.files.append path (Text.encode (command ++ "\n")) with
    | .ok files => (.ok "", { m with files := files })
    | .error e => (.error (.commandFile path e.message), m)

end Delivery

end SwitchFabric
