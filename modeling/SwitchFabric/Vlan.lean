import SwitchFabric.SortedMap
import SwitchFabric.Text.Split
import SwitchFabric.ValueError

/-!
# VLAN numbers

A VLAN number is between 1 and 4094. Its text may carry the word `vlan` in any letter case in front.
The device name of a VLAN interface ends in a dot and the VLAN's text.
-/

namespace SwitchFabric

/-- The number of a VLAN that a switch can have. -/
structure VlanId where
  number : Nat
  one_le : 1 ≤ number
  le_max : number ≤ 4094
  deriving DecidableEq

namespace VlanId

@[ext] theorem ext {v w : VlanId} (h : v.number = w.number) : v = w := by
  cases v; cases w; cases h; rfl

/-- The VLAN with number `n`. -/
def ofNumber (n : Nat) : Except ValueError VlanId :=
  if h : 1 ≤ n ∧ n ≤ 4094 then .ok ⟨n, h.1, h.2⟩ else .error (.vlan n)

theorem ofNumber_number (v : VlanId) : ofNumber v.number = .ok v := dif_pos ⟨v.one_le, v.le_max⟩

/-- VLANs are ordered by number. -/
instance : OrderedKey VlanId where
  before v w := OrderedKey.before v.number w.number
  irrefl v := OrderedKey.irrefl v.number
  trans := OrderedKey.trans
  connected h h' := ext (OrderedKey.connected h h')

/-- The number in decimal. -/
def toText (v : VlanId) : String := Text.decimal v.number

/-- A text without the word `vlan` in front, if it stands there in some letter case. -/
def withoutWord : List Char → List Char
  | v :: l :: a :: n :: rest =>
    if [v, l, a, n].map Char.toLower == ['v', 'l', 'a', 'n'] then rest
    else v :: l :: a :: n :: rest
  | cs => cs

/-- The VLAN that a text names. A text that is no number of 16 bits is refused as VLAN 0. -/
def parse (cs : List Char) : Except ValueError VlanId :=
  match Text.readUpTo Text.shortLimit (withoutWord cs) with
  | some n => ofNumber n
  | none => .error (.vlan 0)

/-- The two parts of a device name around its last dot, the second read as a VLAN. -/
def splitDevice (name : String) : Option (String × Except ValueError VlanId) :=
  (Text.splitLast '.' name.toList).map fun (device, vlan) => (String.ofList device, parse vlan)

end VlanId

end SwitchFabric
