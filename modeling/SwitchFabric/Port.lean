import SwitchFabric.SortedMap
import SwitchFabric.Text.LetterCase
import SwitchFabric.ValueError

/-!
# Ports

The two modes of a switch port, and the MTU that overrides a port's default.
-/

namespace SwitchFabric

/-- How a port treats VLAN tags: it carries one VLAN untagged, or several tagged. -/
inductive SwitchportMode where
  | access
  | trunk
  deriving DecidableEq

namespace SwitchportMode

/-- The mode as settings and errors spell it. -/
def name : SwitchportMode → String
  | .access => "access"
  | .trunk => "trunk"

/-- The mode that a text names, in any letter case. -/
def parse (s : String) : Except ValueError SwitchportMode :=
  let low := Text.lowercase s
  if low == "access" then .ok .access
  else if low == "trunk" then .ok .trunk
  else .error (.portMode s)

end SwitchportMode

/-- The MTU of a port; zero stands for the switch's default. -/
structure Mtu where
  value : Nat
  deriving DecidableEq

namespace Mtu

@[ext] theorem ext {m n : Mtu} (h : m.value = n.value) : m = n := by
  cases m; cases n; cases h; rfl

/-- Gives a port its default MTU back. -/
def reset : Mtu := ⟨0⟩

/-- The MTU stands for the default of the switch. -/
def isReset (m : Mtu) : Bool := m.value == 0

/-- MTUs are ordered by size. -/
instance : OrderedKey Mtu where
  before m n := OrderedKey.before m.value n.value
  irrefl m := OrderedKey.irrefl m.value
  trans := OrderedKey.trans
  connected h h' := ext (OrderedKey.connected h h')

end Mtu

end SwitchFabric
