import SwitchFabric.Text.Decimal

/-!
# Failures of switch calls
-/

namespace SwitchFabric

/-- A whole number in decimal, with a minus sign if it is negative. -/
def Text.signedDecimal (n : Int) : String :=
  if n < 0 then "-" ++ Text.decimal n.natAbs else Text.decimal n.natAbs

/-- Why a call on a switch failed. -/
inductive SwitchError where
  /-- A local command could not be started. -/
  | shellExec (command reason : String)
  /-- A local command ended with an exit code other than zero. -/
  | commandFailed (command : String) (exitCode : Int) (output : String)
  /-- A switch took a command, but its state does not show it. -/
  | verification (host reason : String)
  /-- What a show command printed could not be understood. -/
  | unexpectedOutput (command reason : String)
  | unknownVendor (vendor : String)
  /-- Commands cannot be sent without a user to log in as. -/
  | missingCredentials (host : String)
  /-- The file that collects commands could not be written. -/
  | commandFile (path reason : String)
  deriving DecidableEq

namespace SwitchError

/-- What the operator is told of an error. -/
def message : SwitchError → String
  | shellExec command reason => "Failed to execute shell command '" ++ command ++ "': " ++ reason
  | commandFailed command exitCode output =>
    "Shell command failed: '" ++ command ++ "' (exit code " ++ Text.signedDecimal exitCode ++ "): " ++
      output
  | verification host reason => "Switch " ++ host ++ ": " ++ reason
  | unexpectedOutput command reason => "Unexpected output from '" ++ command ++ "': " ++ reason
  | unknownVendor vendor => "No switch driver registered for class '" ++ vendor ++ "'"
  | missingCredentials host => "Switch " ++ host ++ ": active mode requires a userid"
  | commandFile path reason => "Failed to write switch command file " ++ path ++ ": " ++ reason

/-- The failure lies in the delivery of commands, not in the switch. -/
def isTransport : SwitchError → Bool
  | shellExec .. | commandFailed .. | commandFile .. => true
  | verification .. | unexpectedOutput .. | unknownVendor .. | missingCredentials .. => false

end SwitchError

end SwitchFabric
