import SwitchFabric.Address.V6
import SwitchFabric.Text.Blank
import SwitchFabric.Text.Split
import SwitchFabric.ValueError

/-!
# Addresses and prefixes

An address is of one of the two families, told apart by a colon in its text. A prefix is an address
with a length that fits its family; the host bits of the address are kept.
-/

namespace SwitchFabric

open Address in
/-- An address of either family. -/
inductive IpAddress where
  | v4 (address : V4)
  | v6 (address : V6)
  deriving DecidableEq

namespace IpAddress

open Address

/-- The text of an address in the notation of its family. -/
def toText : IpAddress → String
  | .v4 a => String.ofList a.print
  | .v6 a => String.ofList a.print

/-- The address is of the first family. One of the second that embeds an IPv4 address is not. -/
def isV4 : IpAddress → Bool
  | .v4 _ => true
  | .v6 _ => false

/-- The longest prefix of the family. -/
def bits : IpAddress → Nat
  | .v4 _ => 32
  | .v6 _ => 128

/-- The address that a text spells, blanks at its ends aside. -/
def parse (cs : List Char) : Except ValueError IpAddress :=
  let body := Text.trim cs
  let found := if ':' ∈ body then (V6.parse body).map v6 else (V4.parse body).map v4
  match found with
  | some a => .ok a
  | none => .error (.address (String.ofList body))

/-- The family and then the number of an address, as a list of numbers to compare in turn. -/
def rank : IpAddress → List Nat
  | .v4 a => 4 :: a.bytes
  | .v6 a => 6 :: a.groups.map UInt16.toNat

/-- IPv4 addresses come before IPv6 addresses, and those of a family are ordered as numbers. -/
def le (a b : IpAddress) : Bool := !decide (b.rank < a.rank)

/-- The address in a quoted literal's place: its family around its text. -/
def shown (a : IpAddress) : String :=
  (if a.isV4 then "V4(" else "V6(") ++ a.toText ++ ")"

end IpAddress

/-- A network prefix: an address, of which the first bits name the network. -/
structure IpPrefix where
  address : IpAddress
  length : Nat
  fits : length ≤ address.bits
  deriving DecidableEq

namespace IpPrefix

/-- The prefix of the given length around an address. -/
def ofAddress (address : IpAddress) (length : Nat) : Except ValueError IpPrefix :=
  if h : length ≤ address.bits then .ok ⟨address, length, h⟩
  else
    .error (.addressPrefix ("prefix length " ++ Text.decimal length ++ " exceeds maximum " ++
      Text.decimal address.bits ++ " for address type"))

/-- The address, a slash and the length, with the host bits as they are. -/
def toText (p : IpPrefix) : String := p.address.toText ++ "/" ++ Text.decimal p.length

/-- The prefix that a text spells: an address, the last slash of the text and a length, with blanks
around either. A fault of the address is noticed first. -/
def parse (cs : List Char) : Except ValueError IpPrefix :=
  match Text.splitLast '/' cs with
  | none => .error (.addressPrefix (String.ofList cs))
  | some (address, length) =>
    match IpAddress.parse address with
    | .error e => .error e
    | .ok a =>
      match Text.readUpTo Text.byteLimit (Text.trim length) with
      | none => .error (.addressPrefix (String.ofList cs))
      | some n => ofAddress a n

/-- The prefix as a record of its address and length. -/
def shown (p : IpPrefix) : String :=
  "IpPrefix \x7b address: " ++ p.address.shown ++ ", prefix_len: " ++ Text.decimal p.length ++
    " \x7d"

end IpPrefix

end SwitchFabric
