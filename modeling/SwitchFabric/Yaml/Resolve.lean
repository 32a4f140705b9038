import SwitchFabric.Yaml.Double

/-!
# What a plain scalar stands for

A plain scalar without a tag is null, a truth value, a number or a text. Numbers may be written in
four bases; digits behind a zero are no decimal number but a text.
-/

namespace SwitchFabric.Yaml

/-- A floating-point number. -/
inductive Real where
  | finite (x : Double)
  | infinite (negative : Bool)
  | notANumber
  deriving DecidableEq

/-- A number as it is written, with the words of the format for those that are not finite. -/
def Real.text : Real → List Char
  | .finite x => x.text
  | .infinite false => ".inf".toList
  | .infinite true => "-.inf".toList
  | .notANumber => ".nan".toList

/-- The words for null. Nothing written means null as well, where a plain scalar stands. -/
def isNull (s : String) : Bool := ["null", "Null", "NULL", "~"].contains s

/-- The words for the truth values, in three letter cases each. -/
def bool? (s : String) : Option Bool :=
  if ["true", "True", "TRUE"].contains s then some true
  else if ["false", "False", "FALSE"].contains s then some false
  else none

/-- A sign stands in front. -/
def startsSigned : List Char → Bool
  | c :: _ => c == '+' || c == '-'
  | [] => false

/-- Two or more digits of which the first is zero, with an optional sign. -/
def isZeroPadded (cs : List Char) : Bool :=
  match if startsSigned cs then cs.tail else cs with
  | '0' :: d :: ds => (d :: ds).all Char.isDigit
  | _ => false

/-- The value of a digit in one of the bases up to sixteen. -/
def digitOf? (base : Nat) (c : Char) : Option Nat :=
  let n :=
    if c.isDigit then c.toNat - 48
    else if 'a' ≤ c && c ≤ 'f' then c.toNat - 87
    else if 'A' ≤ c && c ≤ 'F' then c.toNat - 55
    else base
  if n < base then some n else none

/-- The number that one or more digits spell. -/
def inBase? (base : Nat) : List Char → Option Nat
  | [] => none
  | cs => cs.foldlM (fun n c => (digitOf? base c).map (n * base + ·)) 0

/-- The base that two characters at the start of a number choose, and its digits. -/
def basePart : List Char → Option (Nat × List Char)
  | '0' :: 'x' :: cs => some (16, cs)
  | '0' :: 'o' :: cs => some (8, cs)
  | '0' :: 'b' :: cs => some (2, cs)
  | _ => none

/-- A whole number without a minus sign, up to `limit`. -/
def unsigned? (limit : Nat) (cs : List Char) : Option Nat :=
  let body := match cs with
    | '+' :: rest => rest
    | _ => cs
  match basePart body with
  | some (base, digits) => (inBase? base digits).filter (· ≤ limit)
  | none => if isZeroPadded cs then none else (inBase? 10 body).filter (· ≤ limit)

/-- A whole number with a minus sign, down to `-limit`; its magnitude. -/
def negative? (limit : Nat) : List Char → Option Nat
  | '-' :: body =>
    match basePart body with
    | some (base, digits) => (inBase? base digits).filter (· ≤ limit)
    | none => if isZeroPadded body then none else (inBase? 10 body).filter (· ≤ limit)
  | _ => none

/-- A floating-point number that is finite or spelled as an infinity or no number. -/
def real? (cs : List Char) : Option Real :=
  let unsigned := match cs with
    | '+' :: rest => rest
    | _ => cs
  let isOne (words : List String) (cs : List Char) : Bool := words.any (·.toList == cs)
  if cs.head? == some '+' && startsSigned unsigned then none
  else if isOne [".inf", ".Inf", ".INF"] unsigned then some (.infinite false)
  else if isOne ["-.inf", "-.Inf", "-.INF"] cs then some (.infinite true)
  else if isOne [".nan", ".NaN", ".NAN"] cs then some .notANumber
  else (Double.ofText? unsigned).map .finite

/-- The numbers that fit in 64 bits, and the ones that are too wide for that but fit in 128. -/
inductive Whole where
  | fits (n : Int)
  | wide
  deriving DecidableEq

/-- A whole number, and whether it fits 64 bits. Numbers of up to 128 bits are known, too. -/
def whole? (cs : List Char) : Option Whole :=
  match unsigned? (Nat.pow 2 64 - 1) cs, negative? (Nat.pow 2 63) cs with
  | some n, _ => some (.fits n)
  | none, some n => some (.fits (-n))
  | none, none =>
    if (unsigned? (Nat.pow 2 128 - 1) cs).isSome || (negative? (Nat.pow 2 127) cs).isSome then some .wide
    else none

/-- What a plain scalar without a tag stands for. -/
inductive Resolved where
  | null
  | bool (b : Bool)
  | whole (n : Whole)
  | real (x : Real)
  | text
  deriving DecidableEq

/-- What a text stands for, tried in this order: null, a truth value, a whole number, any number,
and itself. -/
def resolve (s : String) : Resolved :=
  let cs := s.toList
  if cs.isEmpty || isNull s then .null
  else
    match bool? s with
    | some b => .bool b
    | none =>
      match whole? cs with
      | some n => .whole n
      | none =>
        match if isZeroPadded cs then none else real? cs with
        | some x => .real x
        | none => .text

end SwitchFabric.Yaml
