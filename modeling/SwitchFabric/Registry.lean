import SwitchFabric.Onyx.Driver
import SwitchFabric.Pass.Basic
import SwitchFabric.Text.LetterCase

/-!
# Drivers by vendor

A registry makes the driver for a switch from its access, by the name of its vendor in any letter case.
Connecting a fabric makes a driver for each of its switches.
-/

namespace SwitchFabric

/-- How drivers `δ` are made, by the vendor's name in lower case. -/
structure Registry (δ : Type) where
  makers : SortedMap String (AccessInfo → Except SwitchError δ)

namespace Registry

variable {δ : Type}

/-- No vendor is known. -/
def empty : Registry δ := ⟨.empty⟩

/-- Register a vendor, in place of an earlier one with the same name. -/
def register (vendor : String) (make : AccessInfo → Except SwitchError δ) (r : Registry δ) :
    Registry δ :=
  ⟨r.makers.insert (Text.lowercase vendor) make⟩

/-- The driver for a switch. -/
def create (r : Registry δ) (a : AccessInfo) : Except SwitchError δ :=
  match r.makers.get? (Text.lowercase a.vendor) with
  | some make => make a
  | none => .error (.unknownVendor a.vendor)

/-- The names of the vendors, in order. -/
def vendors (r : Registry δ) : List String := r.makers.keys

/-- The registry as a record of its vendors. -/
def shown (r : Registry δ) : String :=
  "SwitchFactory \x7b vendors: " ++ Text.bracketed (r.vendors.map Text.literal) ++ " \x7d"

/-- The registry of the drivers of this library. -/
def builtIn : Registry Onyx.Driver := (empty : Registry _).register Onyx.vendor Onyx.Driver.ofAccess

/-- Make a driver for each switch, up to the first that has none. Of two switches with one label the
later counts. -/
def connectAll (r : Registry δ) : List AccessInfo → SortedMap String δ →
    Except PassError (SortedMap String δ)
  | [], drivers => .ok drivers
  | a :: rest, drivers =>
    match r.create a with
    | .ok d => connectAll r rest (drivers.insert a.label d)
    | .error e => .error (.factory a.label e)

/-- The drivers of all switches, by label, unless one of them cannot be made. -/
def connect (r : Registry δ) (switches : List AccessInfo) : Except PassError (SortedMap String δ) :=
  r.connectAll switches .empty

end Registry

/-- The switches that drivers reach from a machine. -/
def Fleet.ofDrivers {ν : Type} (net : Network ν) (drivers : SortedMap String Onyx.Driver) :
    Fleet (Machine ν) where
  hasDriver label _ := drivers.contains label
  act label a m :=
    match drivers.get? label with
    | some d => d.act net a m
    | none => (.ok (), m)
  isMlagConfigured label m :=
    match drivers.get? label with
    | some d => d.isMlagConfigured net m
    | none => (.ok false, m)

end SwitchFabric
