import SwitchFabric.Shell.Syntax
import SwitchFabric.Shell.Utilities

/-!
# Running command lines

A command line is run as `sh -c` runs it: pipelines in order, each if its condition holds, until one of
them leaves the shell or kills it. Besides the utilities there may be programs that act on a state of
their own, such as one that logs in to another machine.
-/

namespace SwitchFabric.Shell

/-- Names with their values. -/
abbrev Environment := List (String × String)

/-- A program: its output, given its arguments, the environment and its input. -/
abbrev Program (ω : Type) :=
  List String → Environment → List UInt8 → ω → Output × ω

/-- The programs that a command can name besides the utilities. -/
abbrev Programs (ω : Type) := String → Option (Program ω)

/-- How a command line ends. -/
inductive Ending where
  | exited (code : Nat)
  | killed
  deriving DecidableEq

/-- What a command does to the shell. -/
inductive Effect where
  | goesOn
  | exits
  | kills
  deriving DecidableEq

/-! ## Words -/

/-- The number that stands for the shell's own process. -/
def processNumber : String := "1"

/-- The value of a variable. One that is not set is empty. -/
def valueOf (environment : Environment) (status : Nat) (name : String) : String :=
  if name == "$" then processNumber
  else if name == "?" then Text.decimal status
  else (environment.lookup name).getD ""

/-- The fields of a word so far: finished ones, the characters of the one being read, and whether that
one counts even if it is empty. -/
structure Fields where
  done : List (List Char)
  current : List Char
  started : Bool

namespace Fields

/-- A character that stands for itself, blank or not. -/
def add (c : Char) (f : Fields) : Fields := { f with current := f.current ++ [c], started := true }

/-- The field being read ends. -/
def close (f : Fields) : Fields :=
  if f.started then ⟨f.done ++ [f.current], [], false⟩ else f

/-- A character of an unquoted value: a blank ends the field. -/
def addSplit (c : Char) (f : Fields) : Fields :=
  if c == ' ' || c == '\t' || c == '\n' then f.close else f.add c

end Fields

/-- The words that a word stands for once its variables are replaced. -/
def fieldsOf (environment : Environment) (status : Nat) (w : Word) : List String :=
  let fields := w.pieces.foldl (fun (f : Fields) p =>
    match p with
    | .char c => f.add c
    | .variable true name => (valueOf environment status name).toList.foldl (fun f c => f.add c) f
    | .variable false name =>
      (valueOf environment status name).toList.foldl (fun f c => f.addSplit c) f)
    ⟨[], [], w.quoted⟩
  fields.close.done.map String.ofList

/-! ## Redirections -/

/-- Where the two outputs of a command go. -/
inductive Sink where
  | out
  | err
  | nowhere
  deriving DecidableEq

/-- The sinks after a redirection. Files are not written; what goes to one is gone. -/
def redirected (sinks : Sink × Sink) (r : Redirect) : Sink × Sink :=
  let sink := match r.target with
    | .output 2 => sinks.2
    | .output _ => sinks.1
    | .file _ _ => .nowhere
  if r.output == 2 then (sinks.1, sink) else (sink, sinks.2)

/-- The outputs of a command once its redirections are applied. -/
def Output.redirect (redirects : List Redirect) (o : Output) : Output :=
  let sinks := redirects.foldl redirected (.out, .err)
  let going (s : Sink) : List UInt8 :=
    (if sinks.1 == s then o.out else []) ++ (if sinks.2 == s then o.err else [])
  ⟨going .out, going .err, o.code⟩

/-! ## Commands -/

variable {ω : Type} (programs : Programs ω)

/-- Run a program by name. -/
def runProgram (environment : Environment) (status : Nat) (name : String) (arguments : List String)
    (input : List UInt8) (s : ω) : Output × Effect × ω :=
  if name == "exit" then
    match arguments with
    | [] => (.ofCode status, .exits, s)
    | n :: _ =>
      match Text.value? n.toList with
      | some code => (.ofCode (code % 256), .exits, s)
      | none => (.failed ("/bin/sh: 1: exit: Illegal number: " ++ n) 2, .exits, s)
  else if name == "kill" && arguments.getLast? == some processNumber then
    (.ofCode 0, if arguments.head? == some "-0" then .goesOn else .kills, s)
  else
    match programs name with
    | some program =>
      let (o, s) := program arguments environment input s
      (o, .goesOn, s)
    | none =>
      match utility name with
      | some program => (program arguments input, .goesOn, s)
      | none => (.failed ("/bin/sh: 1: " ++ name ++ ": not found") 127, .goesOn, s)

/-- Run a simple command. -/
def runCommand (environment : Environment) (status : Nat) (c : Command) (input : List UInt8) (s : ω) :
    Output × Effect × ω :=
  match c.words.flatMap (fieldsOf environment status) with
  | [] => (.ofCode 0, .goesOn, s)
  | name :: arguments =>
    let (o, effect, s) := runProgram programs environment status name arguments input s
    (o.redirect c.redirects, effect, s)

/-- Run commands that each read what the one before writes. None of them can leave the shell itself,
but one can kill it. -/
def runPiped (environment : Environment) (status : Nat) :
    List Command → List UInt8 → ω → Output × Effect × ω
  | [], input, s => (.ofBytes input, .goesOn, s)
  | [c], input, s => runCommand programs environment status c input s
  | c :: cs, input, s =>
    let (first, effect, s) := runCommand programs environment status c input s
    let (last, effect', s) := runPiped environment status cs first.out s
    let effect := if effect == .kills then effect else if effect' == .kills then effect' else .goesOn
    ({ last with err := first.err ++ last.err }, effect, s)

/-- The condition holds after a pipeline that ended with a code. -/
def Condition.holds (status : Nat) : Condition → Bool
  | .always => true
  | .onSuccess => status == 0
  | .onFailure => status != 0

/-- Run pipelines in order: what they write, how they end, and the state they leave. -/
def runPipelines (environment : Environment) : Nat → List Pipeline → ω →
    List UInt8 × List UInt8 × Ending × ω
  | status, [], s => ([], [], .exited status, s)
  | status, p :: ps, s =>
    if p.condition.holds status then
      let (o, effect, s) := runPiped programs environment status p.commands [] s
      match effect with
      | .exits => (o.out, o.err, .exited o.code, s)
      | .kills => (o.out, o.err, .killed, s)
      | .goesOn =>
        let (out, err, ending, s) := runPipelines environment o.code ps s
        (o.out ++ out, o.err ++ err, ending, s)
    else runPipelines environment status ps s

/-- Run a command line. One that cannot be read ends with code 2. -/
def run (environment : Environment) (line : List Char) (s : ω) :
    List UInt8 × List UInt8 × Ending × ω :=
  match parse line with
  | .ok pipelines => runPipelines programs environment 0 pipelines s
  | .error e => ([], Text.encode ("/bin/sh: 1: " ++ e.message ++ "\n"), .exited 2, s)

end SwitchFabric.Shell
