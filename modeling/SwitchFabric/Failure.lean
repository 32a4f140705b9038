import SwitchFabric.Cluster.Error
import SwitchFabric.Pass.Basic

/-!
# Failures as they are reported

A report names what was being done, then the fault, and then the causes below it. A fault whose message
already ends in its cause is followed by that cause again.
-/

namespace SwitchFabric

/-- What lies below a fault of a cluster definition. -/
def ConfigError.causes : ConfigError → List String
  | .io _ reason => [reason]
  | .yaml reason => reason.toList
  | .invalidAddress e => [e.message]
  | _ => []

/-- What lies below a failure of a call. -/
def SwitchError.causes : SwitchError → List String
  | .shellExec _ reason | .commandFile _ reason => [reason]
  | _ => []

/-- What lies below a failure of a pass. -/
def PassError.causes : PassError → List String
  | .missingDriver _ => []
  | .switch _ e | .factory _ e => e.message :: e.causes
  | .prompt e => [e.message]

/-- Why the program ends without success. -/
inductive Failure where
  | load (path : String) (e : ConfigError)
  | aggregate (e : ConfigError)
  | connect (e : PassError)
  | configure (e : PassError)
  | deconfigure (e : PassError)
  deriving DecidableEq

namespace Failure

/-- What was being done, the fault, and its causes. -/
def chain : Failure → List String
  | load path e => ("Failed to load " ++ path) :: e.message :: e.causes
  | aggregate e => "Failed to aggregate data switch topology" :: e.message :: e.causes
  | connect e => "Failed to create switch drivers" :: e.message :: e.causes
  | configure e => "Data switch configuration failed" :: e.message :: e.causes
  | deconfigure e => "Data switch deconfiguration failed" :: e.message :: e.causes

/-- The report on one line. -/
def message (f : Failure) : String := ": ".intercalate f.chain

end Failure

end SwitchFabric
