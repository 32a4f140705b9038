import SwitchFabric.Address.V4

/-!
# IPv6 addresses

Eight groups of 16 bits. An address is written with the first of its longest runs of two or more
zero groups as `::`, and one that embeds an IPv4 address after `::ffff` shows it in dotted decimal.
It is read from any spelling: up to four hexadecimal digits a group, one `::` for one or more zero
groups, and a dotted address for the last two groups.
-/

namespace SwitchFabric.Address

/-- An IPv6 address by its groups, of which there are always eight. -/
structure V6 where
  groups : List UInt16
  eight : groups.length = 8
  deriving DecidableEq

namespace V6

/-! ## Writing -/

/-- A group is written in lower case and without leading zeros. -/
def hexDigits (g : UInt16) : List Char := Nat.toDigits 16 g.toNat

/-- Groups in hexadecimal with colons between them. -/
def printGroups : List UInt16 → List Char
  | [] => []
  | [g] => hexDigits g
  | g :: gs => hexDigits g ++ ':' :: printGroups gs

/-- The number of zero groups in front of `gs`. -/
def zeros (gs : List UInt16) : Nat := (gs.takeWhile (· == 0)).length

/-- The position of the first of the longest runs of zero groups, and its length; `position` is
that of the first group of `gs`. -/
def longestZeros (position : Nat) : List UInt16 → Nat × Nat
  | [] => (position, 0)
  | g :: gs =>
    let here := zeros (g :: gs)
    let later := longestZeros (position + 1) gs
    if later.2 ≤ here then (position, here) else later

/-- The last two of eight groups as an IPv4 address, if the others are five zeros and `ffff`. -/
def embedded? : List UInt16 → Option V4
  | [0, 0, 0, 0, 0, 0xffff, g, h] =>
    some ⟨(g / 256).toUInt8, (g % 256).toUInt8, (h / 256).toUInt8, (h % 256).toUInt8⟩
  | _ => none

/-- The text of an address, in its shortest form. -/
def print (v : V6) : List Char :=
  match embedded? v.groups with
  | some w => "::ffff:".toList ++ w.print
  | none =>
    let (start, count) := longestZeros 0 v.groups
    if 2 ≤ count then
      printGroups (v.groups.take start) ++ ':' :: ':' :: printGroups (v.groups.drop (start + count))
    else printGroups v.groups

/-! ## Reading -/

/-- Digits are read in either case. -/
def hexValue? (c : Char) : Option Nat :=
  if c.isDigit then some (c.toNat - 48)
  else if 'a' ≤ c && c ≤ 'f' then some (c.toNat - 87)
  else if 'A' ≤ c && c ≤ 'F' then some (c.toNat - 55)
  else none

/-- What can stand in a group, whatever the length of the group. -/
def isHex (c : Char) : Bool := (hexValue? c).isSome

/-- A group in front of `cs`: the longest run of hexadecimal digits, of which there are one to
four; and what follows. -/
def readGroup (cs : List Char) : Option (UInt16 × List Char) :=
  let run := cs.takeWhile isHex
  if 1 ≤ run.length && run.length ≤ 4 then
    some (UInt16.ofNat (run.foldl (fun n c => n * 16 + (hexValue? c).getD 0) 0),
      cs.dropWhile isHex)
  else none

/-- What follows the colon that a group other than the first needs in front. -/
def afterColon (first : Bool) (cs : List Char) : Option (List Char) :=
  if first then some cs
  else
    match cs with
    | ':' :: rest => some rest
    | _ => none

/-- Groups that were read, whether the last two of them were dotted, and what follows. -/
structure Reading where
  groups : List UInt16
  dotted : Bool
  rest : List Char

/-- At most `limit` groups in front of `cs`, colons between them. A dotted address counts as two
groups and ends them. -/
def readGroups : Nat → Bool → List Char → Reading
  | 0, _, cs => ⟨[], false, cs⟩
  | limit + 1, first, cs =>
    match afterColon first cs with
    | none => ⟨[], false, cs⟩
    | some body =>
      match (if 1 ≤ limit then V4.readFront body else none) with
      | some (w, rest) =>
        ⟨[w.a.toUInt16 * 256 + w.b.toUInt16, w.c.toUInt16 * 256 + w.d.toUInt16], true, rest⟩
      | none =>
        match readGroup body with
        | none => ⟨[], false, cs⟩
        | some (g, rest) =>
          let more := readGroups limit false rest
          { more with groups := g :: more.groups }

/-- Eight groups, if there are eight. -/
def ofGroups? (gs : List UInt16) : Option V6 :=
  if h : gs.length = 8 then some ⟨gs, h⟩ else none

/-- The address that `cs` spells. A dotted address cannot stand before `::`, which itself stands
for at least one group. -/
def parse (cs : List Char) : Option V6 :=
  let front := readGroups 8 true cs
  if front.groups.length = 8 then
    if front.rest.isEmpty then ofGroups? front.groups else none
  else if front.dotted then none
  else
    match front.rest with
    | ':' :: ':' :: rest =>
      let back := readGroups (7 - front.groups.length) true rest
      if back.rest.isEmpty then
        ofGroups? (front.groups ++
          List.replicate (8 - front.groups.length - back.groups.length) 0 ++ back.groups)
      else none
    | _ => none

end V6

end SwitchFabric.Address
