import SwitchFabric.Recording

/-!
# Assertions about recorded calls

Queries count as calls of their method, but are left out where the calls of a switch are looked at in
turn.
-/

namespace SwitchFabric

/-- Why an assertion does not hold. -/
inductive VerificationError where
  | callNotFound (switch call actual : String)
  | unexpectedCall (switch call : String)
  | outOfOrder (switch call actual : String)
  | countMismatch (switch method : String) (expected actual : Nat)
  deriving DecidableEq

/-- The text of an error, which names the switch first. -/
def VerificationError.message : VerificationError → String
  | callNotFound switch call actual =>
    "Switch " ++ switch ++ ": expected call " ++ call ++ " was not made; calls were " ++ actual
  | unexpectedCall switch call => "Switch " ++ switch ++ ": unexpected call " ++ call
  | outOfOrder switch call actual =>
    "Switch " ++ switch ++ ": call " ++ call ++ " out of order; calls were " ++ actual
  | countMismatch switch method expected actual =>
    "Switch " ++ switch ++ ": expected " ++ Text.decimal expected ++ " calls to " ++ method ++
      ", found " ++ Text.decimal actual

namespace Verify

variable (log : List RecordedCall)

/-- The calls made on a switch, without queries. -/
def callsFor (switch : String) : List Call :=
  (log.filter fun r => r.switch == switch && !r.call.isQuery).map RecordedCall.call

/-- The number of calls to a method of a switch. -/
def count (switch method : String) : Nat :=
  log.countP fun r => r.switch == switch && r.call.method == method

/-- The calls of a switch as a list of records. -/
def describe (switch : String) : String :=
  Text.bracketed ((callsFor log switch).map Call.shown)

/-- The call was made. -/
def called (switch : String) (call : Call) : Except VerificationError Unit :=
  if (callsFor log switch).contains call then .ok ()
  else .error (.callNotFound switch call.shown (describe log switch))

/-- The method was never called. -/
def notCalled (switch method : String) : Except VerificationError Unit :=
  match log.find? fun r => r.switch == switch && r.call.method == method with
  | some r => .error (.unexpectedCall switch r.call.shown)
  | none => .ok ()

/-- The method was called the given number of times. -/
def counted (switch method : String) (expected : Nat) : Except VerificationError Unit :=
  let actual := count log switch method
  if actual == expected then .ok () else .error (.countMismatch switch method expected actual)

/-- What follows the first occurrence of a call. -/
def after (call : Call) : List Call → Option (List Call)
  | [] => none
  | c :: cs => if c = call then some cs else after call cs

/-- The first of the expected calls that does not come after the ones before it. -/
def firstOutOfPlace (calls : List Call) : List Call → Option Call
  | [] => none
  | call :: expected =>
    match after call calls with
    | some rest => firstOutOfPlace rest expected
    | none => some call

/-- The expected calls were made in this order, with other calls between them or not. -/
def inOrder (switch : String) (expected : List Call) : Except VerificationError Unit :=
  let calls := callsFor log switch
  match firstOutOfPlace calls expected with
  | none => .ok ()
  | some call =>
    if calls.contains call then .error (.outOfOrder switch call.shown (describe log switch))
    else .error (.callNotFound switch call.shown (describe log switch))

end Verify

end SwitchFabric
