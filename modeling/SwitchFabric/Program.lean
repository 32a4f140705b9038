import SwitchFabric.Arguments
import SwitchFabric.Cluster.Reader
import SwitchFabric.Failure
import SwitchFabric.Pass.Configure
import SwitchFabric.Registry
import SwitchFabric.Topology.Aggregate
import SwitchFabric.Topology.Dump
import SwitchFabric.Yaml.Printer

/-!
# The program

The program reads a cluster definition, derives the topology of the fabric, and then prints it, applies
it or takes it back.
-/

namespace SwitchFabric

/-- Load and check the cluster definition in a file. -/
def Cluster.ofFile (files : Files) (path : String) : Except ConfigError Cluster :=
  match files.readText path with
  | .ok text => Cluster.ofText text
  | .error e => .error (.io path e.message)

namespace Program

/-- The name by which the program is called. -/
def name : String := "configure-data-switches"

/-- What the program prints when it is asked for its version. -/
def versionText : String := name ++ " 0.1.0\n"

/-- What the program prints when it is asked for help. -/
def helpText : String :=
  "Configure cluster data switches\n\nUsage: " ++ name ++
    " [--config <CONFIG>] [gather|deconfigure|info|debug|warning]...\n"

/-- The file that is read when neither the command line nor the environment names one. -/
def defaultConfig : String := "config.yml"

/-- How the program ends. -/
inductive Outcome where
  /-- All was done. -/
  | done
  | failed (f : Failure)
  | refused (r : Refusal)
  deriving DecidableEq

/-- The exit code. Being asked for the version or for help is no failure. -/
def Outcome.code : Outcome → Nat
  | done => 0
  | failed _ => 1
  | refused .usage => 2
  | refused .version | refused .help => 0

/-- What the program works on: the machine, the operator's terminal, and what is printed. -/
structure Session (ν : Type) where
  machine : Machine ν
  terminal : Terminal
  printed : String

variable {ν : Type} (net : Network ν)

/-- The topology of a cluster. -/
def aggregate (c : Cluster) : Except Failure Topology := c.topology.mapError .aggregate

/-- The drivers of a cluster's switches. -/
def connect (c : Cluster) : Except Failure (SortedMap String Onyx.Driver) :=
  (Registry.builtIn.connect c.accessInfo).mapError .connect

/-- Run the pass that a goal stands for. -/
def pass (goal : Goal) (t : Topology) (drivers : SortedMap String Onyx.Driver) (s : Session ν) :
    Outcome × Session ν :=
  let f := Fleet.ofDrivers net drivers
  let (steps, failure) := match goal with
    | .deconfigure => (t.deconfigure, Failure.deconfigure)
    | _ => (t.configure, Failure.configure)
  let (result, after) := Pass.run f Terminal.operator t steps ⟨s.machine, s.terminal⟩
  let s := { s with machine := after.fleet, terminal := after.operator }
  match result with
  | .ok () => (.done, s)
  | .error e => (.failed (failure e), s)

/-- Do what is asked with the cluster definition at a path. -/
def carryOut (goal : Goal) (path : String) (s : Session ν) : Outcome × Session ν :=
  match (Cluster.ofFile s.machine.files path).mapError (Failure.load path) with
  | .error e => (.failed e, s)
  | .ok c =>
    match aggregate c with
    | .error e => (.failed e, s)
    | .ok t =>
      if goal == .gather then (.done, { s with printed := t.toValue.print ++ "\n" })
      else
        match connect c with
        | .error e => (.failed e, s)
        | .ok drivers => pass net goal t drivers s

/-- The path of the cluster definition. One from the environment must not be empty. -/
def configPath (a : Arguments) (environment : Option String) : Except Refusal String :=
  match a.config, environment with
  | some path, _ => .ok path
  | none, some path => if path.isEmpty then .error .usage else .ok path
  | none, none => .ok defaultConfig

/-- Run the program with its arguments, and the path that the environment gives. -/
def run (arguments : List String) (environment : Option String) (s : Session ν) :
    Outcome × Session ν :=
  match (Arguments.read arguments).bind fun a => (configPath a environment).map (a.goal, ·) with
  | .ok (goal, path) => carryOut net goal path s
  | .error .version => (.refused .version, { s with printed := versionText })
  | .error .help => (.refused .help, { s with printed := helpText })
  | .error .usage => (.refused .usage, s)

end Program

end SwitchFabric
