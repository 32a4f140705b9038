import SwitchFabric.Machine.Files
import SwitchFabric.Shell.Exec

/-!
# The machine that commands are sent from

A machine has files, a network on which other machines can be logged in to, and a record of the logins
that were made. The network can be anything that answers a login and changes with it. On the machine
there are the programs `ssh` and `sshpass`, whose last two arguments are the login and the command that
is run there.
-/

namespace SwitchFabric

/-- A command that is run by logging in to another machine. -/
structure RemoteRun where
  /-- The login is made with a password. -/
  withPassword : Bool
  /-- The password that the environment holds. -/
  password : Option String
  login : String
  command : String
  deriving DecidableEq

/-- What other machines print and how they end, when a state `ν` of theirs can change. -/
structure Network (ν : Type) where
  answer : RemoteRun → ν → Shell.Output × ν

/-- What a run can change: the files, the switches behind the network, and the record of logins. -/
structure Machine (ν : Type) where
  files : Files
  network : ν
  /-- The logins made so far, first one first. -/
  sent : List RemoteRun

namespace Machine

variable {ν : Type} (net : Network ν)

/-- The variable that `sshpass` reads the password from. -/
def passwordVariable : String := "SSHPASS"

/-- Log in and run a command. -/
def logIn (r : RemoteRun) (m : Machine ν) : Shell.Output × Machine ν :=
  let (o, network) := net.answer r m.network
  (o, { m with network := network, sent := m.sent ++ [r] })

/-- A program that logs in with the last two of its arguments. -/
def ssh (withPassword : Bool) : Shell.Program (Machine ν) := fun arguments environment _ m =>
  match arguments.reverse with
  | command :: login :: _ =>
    logIn net ⟨withPassword, environment.lookup passwordVariable, login, command⟩ m
  | _ => (.failed "usage: ssh destination command" 255, m)

/-- Where SSH is installed. -/
def sshPath : String := "/usr/bin/ssh"

/-- Where the program is installed that types a password into SSH. -/
def sshpassPath : String := "/usr/bin/sshpass"

/-- The programs of the machine besides the utilities. -/
def programs : Shell.Programs (Machine ν) := fun name =>
  if name == sshPath then some (ssh net false)
  else if name == sshpassPath then some (ssh net true)
  else none

end Machine

/-! ## Networks from tables -/

/-- What a table answers to the commands that contain a text, perhaps of one login only. -/
structure ReplyRule where
  contains : String
  login : Option String
  /-- The answers, in turn; the last one is given forever. -/
  replies : List Shell.Output
  deriving DecidableEq

namespace ReplyRule

/-- The text occurs in another. -/
def occursIn (t : List Char) : List Char → Bool
  | [] => t.isEmpty
  | c :: cs => t.isPrefixOf (c :: cs) || occursIn t cs

/-- A rule is for commands that contain a text, and perhaps for one login only. -/
def applies (rule : ReplyRule) (r : RemoteRun) : Bool :=
  occursIn rule.contains.toList r.command.toList &&
    rule.login.all (· == r.login)

/-- The next answer, and the answers after it. -/
def next : List Shell.Output → Shell.Output × List Shell.Output
  | [] => (.ofCode 0, [])
  | [o] => (o, [o])
  | o :: os => (o, os)

/-- The answer of the first rule that applies, and the rules after it. Without one, nothing is printed
and all is well. -/
def answer (r : RemoteRun) : List ReplyRule → Shell.Output × List ReplyRule
  | [] => (.ofCode 0, [])
  | rule :: rules =>
    if rule.applies r then
      let (o, replies) := next rule.replies
      (o, { rule with replies := replies } :: rules)
    else
      let (o, rules) := answer r rules
      (o, rule :: rules)

/-- The network of a table of rules. -/
def network : Network (List ReplyRule) := ⟨answer⟩

end ReplyRule

/-- A network on which no machine can be reached. -/
def Network.down : Network Unit where
  answer r _ := (.failed ("ssh: cannot reach " ++ r.login) 255, ())

end SwitchFabric
