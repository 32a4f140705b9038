import SwitchFabric.Port
import SwitchFabric.Text.Search
import SwitchFabric.Vlan

/-!
# What Onyx shows

The tables that show commands print, as far as the driver reads them: which VLANs there are, the mode and
the VLANs of each port, the inter-peer link, and the ports of a port channel.
-/

namespace SwitchFabric.Onyx

open Text

/-- A number, which is kept. -/
def digitField : Piece := .field 1 isDecimal

/-- The gap between two columns. -/
def blanks : Piece := .run 1 isBlank

/-! ## VLANs -/

/-- A line of the VLAN table starts with the number of the VLAN. -/
def vlanListed (table : List Char) (v : VlanId) : Bool :=
  (lines table).any fun line => (words line).head? == some v.toText.toList

/-! ## Ports -/

/-- The state of a port: the switch's name for its mode, the VLAN of its untagged frames, and the VLANs
that it carries tagged. -/
structure PortState where
  mode : String
  nativeVlan : Nat
  allowedVlans : List Nat
  deriving DecidableEq

/-- The port is in a mode. Two of the switch's modes carry tagged VLANs. -/
def PortState.isInMode (s : PortState) : SwitchportMode → Bool
  | .access => s.mode == "access"
  | .trunk => s.mode == "hybrid" || s.mode == "trunk"

/-- A row of the port table: port, mode, native VLAN, and the rest of the line. -/
def portRow : Pattern :=
  [.text "Eth1/".toList, digitField, blanks,
    .word ["access".toList, "hybrid".toList, "trunk".toList], blanks, digitField, .run 0 isBlank,
    .field 0 inLine]

/-- The port and its state in a row of the table. A row whose numbers are out of range does not count,
and neither does an allowed VLAN out of range. -/
def readPortRow (line : List Char) : Option (Nat × PortState) := do
  match ← portRow.find? line with
  | [port, mode, native, allowed] =>
    let port ← readUpTo wordLimit port
    let native ← readUpTo shortLimit native
    some (port, ⟨String.ofList mode, native, (digitRuns allowed).filterMap (readUpTo shortLimit)⟩)
  | _ => none

/-- The ports of the table with their states. Of two rows for a port the later counts. -/
def readPorts (table : List Char) : SortedMap Nat PortState :=
  .ofList ((lines table).filterMap readPortRow)

/-! ## MLAG -/

/-- A row of the inter-peer link: its number, port channel and VLAN. -/
def linkRow : Pattern :=
  [.run 1 isDecimal, blanks, .text "Po".toList, digitField, blanks, digitField]

/-- The port channel and the VLAN of the inter-peer link. Only the first row counts, and there is no
link if its numbers are out of range. -/
def readLink (table : List Char) : Option (Nat × VlanId) := do
  match ← linkRow.find? table with
  | [channel, vlan] =>
    let channel ← readUpTo wordLimit channel
    let vlan ← (VlanId.parse vlan).toOption
    some (channel, vlan)
  | _ => none

/-- A row of a port channel: group, port channel with its flags, type, and the ports. -/
def channelRow (channel : Nat) : Pattern :=
  [.run 1 isDecimal, blanks, .text ("Po".toList ++ digits channel), .run 0 (!isBlank ·), blanks,
    .run 1 isWordChar, blanks, .field 0 inLine]

/-- The number of a port as a member of a port channel, behind which its flags stand. -/
def readMember (word : List Char) : Option Nat :=
  let slot := "Eth1/".toList
  if slot.isPrefixOf word then
    readUpTo wordLimit (dropEndWhile (!·.isDigit) (word.drop slot.length))
  else none

/-- The ports of a port channel. -/
def readMembers (table : List Char) (channel : Nat) : List Nat :=
  match (channelRow channel).find? table with
  | some [members] => (words members).filterMap readMember
  | _ => []

end SwitchFabric.Onyx
