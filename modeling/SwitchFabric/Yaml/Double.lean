import SwitchFabric.Text.Decimal

/-!
# Double-precision numbers

The finite numbers of the binary64 format, exactly: a sign and a whole number of units of 2⁻¹⁰⁷⁴, the
smallest positive number of the format. A decimal number is read as the nearest double, to the even
one of two, and a double is written with the fewest digits that read back as it.
-/

namespace SwitchFabric.Yaml

/-- A finite number in double precision. -/
structure Double where
  negative : Bool
  /-- The magnitude in units of 2⁻¹⁰⁷⁴; the format has those of at most 53 significant bits. -/
  units : Nat
  deriving DecidableEq

namespace Double

/-- The quotient rounded to the nearest whole number, to the even one of two. -/
def roundedQuotient (num den : Nat) : Nat :=
  let q := num / den
  let twice := 2 * (num % den)
  if twice > den || (twice == den && q % 2 == 1) then q + 1 else q

/-- The units of the double nearest to `num / den` units; none beyond the largest double. -/
def nearestUnits (num den : Nat) : Option Nat :=
  let spacing := Nat.pow 2 ((num / den).log2 - 52)
  let units := roundedQuotient num (den * spacing) * spacing
  if units < Nat.pow 2 2098 then some units else none

/-- The units of the double nearest to `mantissa * 10 ^ exponent`; none beyond the largest double. -/
def unitsOfDecimal (mantissa : Nat) (exponent : Int) : Option Nat :=
  let length : Int := (Text.digits mantissa).length
  if mantissa == 0 || exponent + length < -400 then some 0
  else if exponent + length > 400 then none
  else if exponent < 0 then nearestUnits (mantissa * Nat.pow 2 1074) (Nat.pow 10 exponent.natAbs)
  else nearestUnits (mantissa * Nat.pow 10 exponent.natAbs * Nat.pow 2 1074) 1

/-! ## Reading -/

/-- The exponent at the end of a decimal number: none written is zero. -/
def exponent? : List Char → Option Int
  | [] => some 0
  | e :: cs =>
    if e == 'e' || e == 'E' then
      match cs with
      | '+' :: ds => (Text.value? ds).map Int.ofNat
      | '-' :: ds => (Text.value? ds).map fun n => -Int.ofNat n
      | ds => (Text.value? ds).map Int.ofNat
    else none

/-- The magnitude of a decimal number: digits with at most one point among or around them. -/
def magnitude? (cs : List Char) : Option Nat := do
  let whole := cs.takeWhile Char.isDigit
  let (fraction, tail) := match cs.drop whole.length with
    | '.' :: rest =>
      let fraction := rest.takeWhile Char.isDigit
      (fraction, rest.drop fraction.length)
    | rest => ([], rest)
  let mantissa ← Text.value? (whole ++ fraction)
  let exponent ← exponent? tail
  unitsOfDecimal mantissa (exponent - fraction.length)

/-- The double that a decimal number with an optional sign is nearest to. -/
def ofText? (cs : List Char) : Option Double :=
  match cs with
  | '+' :: rest => (magnitude? rest).map (⟨false, ·⟩)
  | '-' :: rest => (magnitude? rest).map (⟨true, ·⟩)
  | _ => (magnitude? cs).map (⟨false, ·⟩)

/-! ## Writing -/

/-- The number of places that `num / den < 1` has to be moved left to be one or more. -/
def placesToOne : Nat → Nat → Nat → Nat
  | 0, _, _ => 0
  | fuel + 1, num, den => if num < den then placesToOne fuel (num * 10) den + 1 else 0

/-- The place before the first digit of a magnitude: 1 for 1 up to below 10. -/
def leadingPlace (units : Nat) : Int :=
  let den := Nat.pow 2 1074
  if den ≤ units then (Text.digits (units / den)).length
  else 1 - Int.ofNat (placesToOne 400 units den)

/-- The closest number of `n` digits that reads back as the magnitude, with its exponent. -/
def decimalOfLength? (units : Nat) (place : Int) (n : Nat) : Option (Nat × Int) :=
  let exponent := place - n
  let (num, den) :=
    if exponent < 0 then (units * Nat.pow 10 exponent.natAbs, Nat.pow 2 1074)
    else (units, Nat.pow 2 1074 * Nat.pow 10 exponent.natAbs)
  let below := num / den
  let (near, far) :=
    if 2 * (num % den) < den || (2 * (num % den) == den && below % 2 == 0) then (below, below + 1)
    else (below + 1, below)
  if unitsOfDecimal near exponent == some units then some (near, exponent)
  else if unitsOfDecimal far exponent == some units then some (far, exponent)
  else none

/-- The shortest decimal that reads back as the magnitude: its digits and their exponent. -/
def shortest (units : Nat) : Nat × Int :=
  let place := leadingPlace units
  ((List.range 17).findSome? fun n => decimalOfLength? units place (n + 1)).getD (units, -1074)

/-- Digits without the zeros at their end, which the exponent takes over. -/
def withoutZeros : Nat → Nat × Int → Nat × Int
  | 0, d => d
  | fuel + 1, (mantissa, exponent) =>
    if mantissa != 0 && mantissa % 10 == 0 then withoutZeros fuel (mantissa / 10, exponent + 1)
    else (mantissa, exponent)

/-- The magnitude in decimal, with a point, or with an exponent when it is far from one. -/
def magnitudeText (units : Nat) : List Char :=
  if units == 0 then "0.0".toList
  else
    let (mantissa, exponent) := withoutZeros 20 (shortest units)
    let digits := Text.digits mantissa
    let point : Int := digits.length + exponent
    if 0 ≤ exponent && point ≤ 16 then
      digits ++ List.replicate exponent.natAbs '0' ++ ".0".toList
    else if 0 < point && point ≤ 16 then
      digits.take point.natAbs ++ '.' :: digits.drop point.natAbs
    else if -5 < point && point ≤ 0 then
      "0.".toList ++ List.replicate point.natAbs '0' ++ digits
    else
      let leading := point - 1
      let written := (if leading < 0 then ['-'] else []) ++ Text.digits leading.natAbs
      match digits with
      | d :: d' :: ds => d :: '.' :: d' :: ds ++ 'e' :: written
      | ds => ds ++ 'e' :: written

/-- The shortest decimal that reads back as `x`. -/
def text (x : Double) : List Char :=
  (if x.negative then ['-'] else []) ++ magnitudeText x.units

end Double

end SwitchFabric.Yaml
