import SwitchFabric.Text.Decimal

/-!
# Characters from bytes

`decode` reads a byte sequence as UTF-8. Where bytes do not continue a character, the longest start
of one that stands there counts as one fault, and reading goes on behind it. The strict reading
refuses a text with a fault and the lenient one puts the replacement character in its place.
-/

namespace SwitchFabric.Text

/-- What the first byte of a character promises: how many bytes follow, the range of the first of
them, and the bits that the first byte holds itself. -/
structure Lead where
  follow : Nat
  low : Nat
  high : Nat
  bits : Nat

/-- What a first byte promises, if a character can start with it. The ranges leave out spellings
that are longer than needed, surrogates, and what is beyond the last code point. -/
def lead? (b : UInt8) : Option Lead :=
  let n := b.toNat
  if n < 0x80 then some ⟨0, 0x80, 0xbf, n⟩
  else if n < 0xc2 then none
  else if n < 0xe0 then some ⟨1, 0x80, 0xbf, n - 0xc0⟩
  else if n == 0xe0 then some ⟨2, 0xa0, 0xbf, 0⟩
  else if n == 0xed then some ⟨2, 0x80, 0x9f, 0xd⟩
  else if n < 0xf0 then some ⟨2, 0x80, 0xbf, n - 0xe0⟩
  else if n == 0xf0 then some ⟨3, 0x90, 0xbf, 0⟩
  else if n < 0xf4 then some ⟨3, 0x80, 0xbf, n - 0xf0⟩
  else if n == 0xf4 then some ⟨3, 0x80, 0x8f, 4⟩
  else none

/-- The code point whose first bytes gave `bits`, when `count` more bytes follow, and the rest. -/
def continuation (low high bits : Nat) : Nat → List UInt8 → Option Nat × List UInt8
  | 0, bs => (some bits, bs)
  | _ + 1, [] => (none, [])
  | count + 1, b :: bs =>
    if low ≤ b.toNat && b.toNat ≤ high then
      continuation 0x80 0xbf (bits * 64 + b.toNat % 64) count bs
    else (none, b :: bs)

theorem length_continuation_le (low high bits count : Nat) (bs : List UInt8) :
    (continuation low high bits count bs).2.length ≤ bs.length := by
  induction count generalizing low high bits bs with
  | zero => simp [continuation]
  | succ count ih =>
    cases bs with
    | nil => simp [continuation]
    | cons b bs =>
      rw [continuation]
      split
      · exact Nat.le_succ_of_le (ih _ _ _ bs)
      · simp

/-- The characters of a byte sequence, with `none` for each fault. -/
def decode : List UInt8 → List (Option Char)
  | [] => []
  | b :: bs =>
    match lead? b with
    | none => none :: decode bs
    | some l =>
      let r := continuation l.low l.high l.bits l.follow bs
      r.1.map Char.ofNat :: decode r.2
termination_by bs => bs.length
decreasing_by
  · simp
  · exact Nat.lt_succ_of_le (length_continuation_le _ _ _ _ _)

/-- All values of a list of present values. -/
def allPresent : List (Option Char) → Option (List Char)
  | [] => some []
  | none :: _ => none
  | some c :: cs => (allPresent cs).map (c :: ·)

/-- The text of a byte sequence without faults. -/
def decodeStrict? (bs : List UInt8) : Option String :=
  (allPresent (decode bs)).map String.ofList

/-- The text of a byte sequence, with the replacement character for each fault. -/
def decodeLenient (bs : List UInt8) : String :=
  String.ofList ((decode bs).map (·.getD (Char.ofNat 0xfffd)))

/-- The first fault of a byte sequence. -/
structure Utf8Fault where
  index : Nat
  /-- The number of bytes at fault; none when a character is cut off at the end. -/
  length : Option Nat
  deriving DecidableEq

/-- The first fault of bytes of which `index` others come before. -/
def firstFault? (index : Nat) : List UInt8 → Option Utf8Fault
  | [] => none
  | b :: bs =>
    match lead? b with
    | none => some ⟨index, some 1⟩
    | some l =>
      let r := continuation l.low l.high l.bits l.follow bs
      let read := 1 + (bs.length - r.2.length)
      if r.1.isSome then firstFault? (index + read) r.2
      else some ⟨index, if r.2.isEmpty then none else some read⟩
termination_by bs => bs.length
decreasing_by exact Nat.lt_succ_of_le (length_continuation_le _ _ _ _ _)

/-- The fault with its place. A character that the text breaks off in has no length. -/
def Utf8Fault.message (f : Utf8Fault) : String :=
  let place := "from index " ++ decimal f.index
  match f.length with
  | some n => "invalid utf-8 sequence of " ++ decimal n ++ " bytes " ++ place
  | none => "incomplete utf-8 byte sequence " ++ place

/-- The bytes of a text. -/
def encode (s : String) : List UInt8 := s.toUTF8.toList

end SwitchFabric.Text
