import SwitchFabric.Text.Decimal

/-!
# IPv4 addresses

Four bytes in dotted decimal. A byte is written without leading zeros and read only so.
-/

namespace SwitchFabric.Address

/-- An IPv4 address by its bytes, in the order in which they are written. -/
structure V4 where
  a : UInt8
  b : UInt8
  c : UInt8
  d : UInt8
  deriving DecidableEq

namespace V4

/-- The bytes as numbers, the most significant first. -/
def bytes (v : V4) : List Nat := [v.a.toNat, v.b.toNat, v.c.toNat, v.d.toNat]

/-- Four bytes in decimal with dots between them. -/
def print (v : V4) : List Char :=
  Text.digits v.a.toNat ++ '.' :: Text.digits v.b.toNat ++ '.' :: Text.digits v.c.toNat ++
    '.' :: Text.digits v.d.toNat

/-- A byte in front of `cs`: the longest run of ASCII digits, of which there are at most three, the
first a zero only if it is alone; and what follows. -/
def readByte (cs : List Char) : Option (UInt8 × List Char) :=
  let run := cs.takeWhile Char.isDigit
  if run.length ≤ 3 && (run.head? != some '0' || run.length == 1) then
    match Text.value? run with
    | some n => if n ≤ Text.byteLimit then some (UInt8.ofNat n, cs.dropWhile Char.isDigit) else none
    | none => none
  else none

/-- What follows a dot in front of `cs`. -/
def afterDot : List Char → Option (List Char)
  | '.' :: cs => some cs
  | _ => none

/-- An address in front of `cs`, and what follows it. -/
def readFront (cs : List Char) : Option (V4 × List Char) := do
  let (a, cs) ← readByte cs
  let (b, cs) ← readByte (← afterDot cs)
  let (c, cs) ← readByte (← afterDot cs)
  let (d, cs) ← readByte (← afterDot cs)
  return (⟨a, b, c, d⟩, cs)

/-- The address that `cs` spells. -/
def parse (cs : List Char) : Option V4 :=
  match readFront cs with
  | some (v, []) => some v
  | _ => none

end V4

end SwitchFabric.Address
