import Mathlib.Data.List.Basic
import SwitchFabric.Text.Utf8

/-!
# Bytes that are a text

Which bytes spell a character is a table of four rows (`CharBytes`), one for each number of bytes. The bytes of a character
are in the table, and what is in the table are the bytes of a character (`charBytes_utf8EncodeChar`,
`CharBytes.exists_char`). A character is read from a row of the table, whatever follows it, and from nothing else
(`CharBytes.readsAs`, `ReadsAs.exists_charBytes`).

So bytes have no fault exactly if they are the bytes of a text (`firstFault?_eq_none_iff`), and are then decoded as that
text (`decodeLenient_encode`).
-/

namespace SwitchFabric.Text

open String (utf8EncodeChar)

variable {low high bits count n : Nat} {b : UInt8} {bs rest : List UInt8} {l : Lead}

/-- A byte that goes on with a character. -/
abbrev GoesOn (b : UInt8) : Prop := 0x80 ≤ b.toNat ∧ b.toNat ≤ 0xbf

/-- The bytes spell the character with the code point `n`. The second byte is restricted where the code point would fit into
fewer bytes, would be a surrogate, or would be beyond the last one. -/
inductive CharBytes (n : Nat) : List UInt8 → Prop where
  | one {b : UInt8} (hb : b.toNat < 0x80) (hn : b.toNat = n) : CharBytes n [b]
  | two {b x : UInt8} (hb : 0xc2 ≤ b.toNat ∧ b.toNat < 0xe0) (hx : GoesOn x)
    (hn : (b.toNat - 0xc0) * 64 + x.toNat % 64 = n) : CharBytes n [b, x]
  | three {b x y : UInt8} (hb : 0xe0 ≤ b.toNat ∧ b.toNat < 0xf0) (hx : GoesOn x) (hy : GoesOn y)
    (hshort : b.toNat = 0xe0 → 0xa0 ≤ x.toNat) (hsurrogate : b.toNat = 0xed → x.toNat ≤ 0x9f)
    (hn : ((b.toNat - 0xe0) * 64 + x.toNat % 64) * 64 + y.toNat % 64 = n) : CharBytes n [b, x, y]
  | four {b x y z : UInt8} (hb : 0xf0 ≤ b.toNat ∧ b.toNat < 0xf5) (hx : GoesOn x) (hy : GoesOn y) (hz : GoesOn z)
    (hshort : b.toNat = 0xf0 → 0x90 ≤ x.toNat) (hlast : b.toNat = 0xf4 → x.toNat ≤ 0x8f)
    (hn : (((b.toNat - 0xf0) * 64 + x.toNat % 64) * 64 + y.toNat % 64) * 64 + z.toNat % 64 = n) :
    CharBytes n [b, x, y, z]

/-! ## The bytes of a character -/

theorem utf8EncodeChar_eq (c : Char) : utf8EncodeChar c =
    if c.toNat ≤ 0x7f then [UInt8.ofNat c.toNat]
    else if c.toNat ≤ 0x7ff then [UInt8.ofNat (c.toNat / 64 % 32 + 192), UInt8.ofNat (c.toNat % 64 + 128)]
    else if c.toNat ≤ 0xffff then
      [UInt8.ofNat (c.toNat / 4096 % 16 + 224), UInt8.ofNat (c.toNat / 64 % 64 + 128), UInt8.ofNat (c.toNat % 64 + 128)]
    else
      [UInt8.ofNat (c.toNat / 262144 % 8 + 240), UInt8.ofNat (c.toNat / 4096 % 64 + 128),
        UInt8.ofNat (c.toNat / 64 % 64 + 128), UInt8.ofNat (c.toNat % 64 + 128)] := rfl

theorem goesOn_ofNat (n : Nat) : GoesOn (UInt8.ofNat (n % 64 + 128)) := by
  rw [GoesOn, UInt8.toNat_ofNat']
  omega

/-- The bytes of a character spell it. -/
theorem charBytes_utf8EncodeChar (c : Char) : CharBytes c.toNat (utf8EncodeChar c) := by
  have hvalid : c.toNat < 0xd800 ∨ 0xdfff < c.toNat ∧ c.toNat < 0x110000 := c.valid
  rw [utf8EncodeChar_eq]
  generalize c.toNat = n at hvalid
  split
  · have hb : (UInt8.ofNat n).toNat = n := by rw [UInt8.toNat_ofNat']; omega
    exact .one (by omega) hb
  have hx : (UInt8.ofNat (n % 64 + 128)).toNat = n % 64 + 128 := by rw [UInt8.toNat_ofNat']; omega
  split
  · have hb : (UInt8.ofNat (n / 64 % 32 + 192)).toNat = n / 64 + 192 := by rw [UInt8.toNat_ofNat']; omega
    exact .two (by omega) (goesOn_ofNat n) (by omega)
  have hy : (UInt8.ofNat (n / 64 % 64 + 128)).toNat = n / 64 % 64 + 128 := by rw [UInt8.toNat_ofNat']; omega
  split
  · have hb : (UInt8.ofNat (n / 4096 % 16 + 224)).toNat = n / 4096 + 224 := by rw [UInt8.toNat_ofNat']; omega
    exact .three (by omega) (goesOn_ofNat _) (goesOn_ofNat _) (by omega) (by omega) (by omega)
  · have hb : (UInt8.ofNat (n / 262144 % 8 + 240)).toNat = n / 262144 + 240 := by rw [UInt8.toNat_ofNat']; omega
    have hz : (UInt8.ofNat (n / 4096 % 64 + 128)).toNat = n / 4096 % 64 + 128 := by rw [UInt8.toNat_ofNat']; omega
    exact .four (by omega) (goesOn_ofNat _) (goesOn_ofNat _) (goesOn_ofNat _) (by omega) (by omega) (by omega)

theorem eq_ofNat (h : b.toNat = n) : b = UInt8.ofNat n := by rw [← h, UInt8.ofNat_toNat]

/-- Bytes that spell a character are its bytes. -/
theorem CharBytes.exists_char (h : CharBytes n bs) : ∃ c : Char, c.toNat = n ∧ utf8EncodeChar c = bs := by
  have hvalid : n < 0xd800 ∨ 0xdfff < n ∧ n < 0x110000 := by cases h <;> omega
  have hn : (Char.ofNat n).toNat = n := by
    rw [Char.ofNat, dif_pos hvalid]
    rfl
  refine ⟨Char.ofNat n, hn, ?_⟩
  rw [utf8EncodeChar_eq, hn]
  cases h with
  | one hb hn => rw [if_pos (by omega), ← hn, UInt8.ofNat_toNat]
  | two hb hx hn =>
    rw [if_neg (by omega), if_pos (by omega), ← eq_ofNat (n := n / 64 % 32 + 192), ← eq_ofNat (n := n % 64 + 128)] <;> omega
  | three hb hx hy hshort hsurrogate hn =>
    rw [if_neg (by omega), if_neg (by omega), if_pos (by omega), ← eq_ofNat (n := n / 4096 % 16 + 224),
      ← eq_ofNat (n := n / 64 % 64 + 128), ← eq_ofNat (n := n % 64 + 128)] <;> omega
  | four hb hx hy hz hshort hlast hn =>
    rw [if_neg (by omega), if_neg (by omega), if_neg (by omega), ← eq_ofNat (n := n / 262144 % 8 + 240),
      ← eq_ofNat (n := n / 4096 % 64 + 128), ← eq_ofNat (n := n / 64 % 64 + 128), ← eq_ofNat (n := n % 64 + 128)] <;> omega

/-! ## First bytes -/

theorem lead?_two (h : 0xc2 ≤ b.toNat ∧ b.toNat < 0xe0) : lead? b = some ⟨1, 0x80, 0xbf, b.toNat - 0xc0⟩ := by
  rw [lead?, if_neg (by omega), if_neg (by omega), if_pos h.2]

theorem lead?_three (h : 0xe0 ≤ b.toNat ∧ b.toNat < 0xf0) :
    lead? b = some ⟨2, if b.toNat = 0xe0 then 0xa0 else 0x80, if b.toNat = 0xed then 0x9f else 0xbf, b.toNat - 0xe0⟩ := by
  rw [lead?, if_neg (by omega), if_neg (by omega), if_neg (by omega)]
  simp only [beq_iff_eq]
  split
  · next heq => simp [heq]
  split
  · next heq => simp [heq]
  · rw [if_pos h.2]

theorem lead?_four (h : 0xf0 ≤ b.toNat ∧ b.toNat < 0xf5) :
    lead? b = some ⟨3, if b.toNat = 0xf0 then 0x90 else 0x80, if b.toNat = 0xf4 then 0x8f else 0xbf, b.toNat - 0xf0⟩ := by
  rw [lead?, if_neg (by omega), if_neg (by omega), if_neg (by omega)]
  simp only [beq_iff_eq]
  rw [if_neg (by omega), if_neg (by omega), if_neg (by omega)]
  split
  · next heq => simp [heq]
  split
  · rw [if_neg (by omega)]
  · have hlast : b.toNat = 0xf4 := by omega
    simp [hlast]

/-- The first byte of a character is in one of four ranges. -/
theorem range_of_lead? (h : lead? b = some l) : b.toNat < 0x80 ∨ (0xc2 ≤ b.toNat ∧ b.toNat < 0xe0) ∨
    (0xe0 ≤ b.toNat ∧ b.toNat < 0xf0) ∨ (0xf0 ≤ b.toNat ∧ b.toNat < 0xf5) := by
  by_contra hnot
  have hnone : lead? b = none := by
    rw [lead?, if_neg (by omega)]
    simp only [beq_iff_eq]
    split
    · rfl
    · rw [if_neg (by omega), if_neg (by omega), if_neg (by omega), if_neg (by omega), if_neg (by omega), if_neg (by omega),
        if_neg (by omega)]
  rw [hnone] at h
  cases h

/-! ## Reading a character -/

theorem continuation_cons (h : low ≤ b.toNat ∧ b.toNat ≤ high) :
    continuation low high bits (count + 1) (b :: bs) = continuation 0x80 0xbf (bits * 64 + b.toNat % 64) count bs := by
  rw [continuation, if_pos (by simpa using h)]

theorem exists_of_continuation (h : continuation low high bits (count + 1) bs = (some n, rest)) :
    ∃ b bs', bs = b :: bs' ∧ (low ≤ b.toNat ∧ b.toNat ≤ high) ∧
      continuation 0x80 0xbf (bits * 64 + b.toNat % 64) count bs' = (some n, rest) := by
  cases bs with
  | nil => cases h
  | cons b bs =>
    rw [continuation] at h
    split at h
    · next hb =>
      rw [Bool.and_eq_true, decide_eq_true_eq, decide_eq_true_eq] at hb
      exact ⟨b, bs, rfl, hb, h⟩
    · cases h

/-- From a first byte and those behind it the code point `n` is read, and `rest` is left. -/
def ReadsAs (b : UInt8) (bs : List UInt8) (n : Nat) (rest : List UInt8) : Prop :=
  ∃ l, lead? b = some l ∧ continuation l.low l.high l.bits l.follow bs = (some n, rest)

/-- A character is read from bytes that spell it, whatever follows them. -/
theorem CharBytes.readsAs (h : CharBytes n (b :: bs)) (rest : List UInt8) : ReadsAs b (bs ++ rest) n rest := by
  cases h with
  | one hb hn => exact ⟨_, if_pos hb, by rw [← hn]; rfl⟩
  | two hb hx hn =>
    refine ⟨_, lead?_two hb, ?_⟩
    rw [List.singleton_append, continuation_cons hx, ← hn]
    rfl
  | three hb hx hy hshort hsurrogate hn =>
    refine ⟨_, lead?_three hb, ?_⟩
    dsimp only
    rw [List.cons_append, List.singleton_append, continuation_cons, continuation_cons hy, ← hn]
    · rfl
    · split <;> split <;> omega
  | four hb hx hy hz hshort hlast hn =>
    refine ⟨_, lead?_four hb, ?_⟩
    dsimp only
    rw [List.cons_append, List.cons_append, List.singleton_append, continuation_cons, continuation_cons hy,
      continuation_cons hz, ← hn]
    · rfl
    · split <;> split <;> omega

/-- What is read as a character spells it. -/
theorem ReadsAs.exists_charBytes (h : ReadsAs b bs n rest) : ∃ tail, bs = tail ++ rest ∧ CharBytes n (b :: tail) := by
  obtain ⟨l, hl, h⟩ := h
  rcases range_of_lead? hl with hb | hb | hb | hb
  · obtain rfl : _ = l := Option.some.inj ((if_pos hb).symm.trans hl)
    cases h
    exact ⟨[], rfl, .one hb rfl⟩
  · obtain rfl : _ = l := Option.some.inj ((lead?_two hb).symm.trans hl)
    obtain ⟨x, bs, rfl, hx, h⟩ := exists_of_continuation h
    cases h
    exact ⟨[x], rfl, .two hb hx rfl⟩
  · obtain rfl : _ = l := Option.some.inj ((lead?_three hb).symm.trans hl)
    obtain ⟨x, bs, rfl, hx, h⟩ := exists_of_continuation h
    obtain ⟨y, bs, rfl, hy, h⟩ := exists_of_continuation h
    cases h
    dsimp only at hx
    refine ⟨[x, y], rfl, .three hb ?_ hy ?_ ?_ rfl⟩ <;> split at hx <;> split at hx <;> omega
  · obtain rfl : _ = l := Option.some.inj ((lead?_four hb).symm.trans hl)
    obtain ⟨x, bs, rfl, hx, h⟩ := exists_of_continuation h
    obtain ⟨y, bs, rfl, hy, h⟩ := exists_of_continuation h
    obtain ⟨z, bs, rfl, hz, h⟩ := exists_of_continuation h
    cases h
    dsimp only at hx
    refine ⟨[x, y, z], rfl, .four hb ?_ hy hz ?_ ?_ rfl⟩ <;> split at hx <;> split at hx <;> omega

/-! ## Reading a text -/

theorem toListLoop_eq (bytes : ByteArray) (i : Nat) (front : List UInt8) :
    ByteArray.toList.loop bytes i front = front.reverse ++ bytes.data.toList.drop i := by
  fun_induction ByteArray.toList.loop bytes i front with
  | case1 i front hi ih =>
    have hget : bytes.get! i = bytes.data.toList[i] := getElem!_pos bytes.data i hi
    rw [ih, List.drop_eq_getElem_cons (i := i) hi, hget, List.reverse_cons, List.append_assoc, List.singleton_append]
  | case2 i front hi => rw [List.drop_eq_nil_of_le (Nat.not_lt.1 hi), List.append_nil]

theorem toList_toByteArray (bs : List UInt8) : bs.toByteArray.toList = bs := by
  rw [ByteArray.toList, toListLoop_eq, List.reverse_nil, List.nil_append, List.drop_zero, List.toList_data_toByteArray]

/-- The bytes of a text are those of its characters. -/
theorem encode_ofList (cs : List Char) : encode (String.ofList cs) = cs.flatMap utf8EncodeChar := toList_toByteArray _

/-- The first character of a text is read from its bytes. -/
theorem exists_readsAs (c : Char) (cs : List Char) :
    ∃ b bs, encode (String.ofList (c :: cs)) = b :: bs ∧ ReadsAs b bs c.toNat (encode (String.ofList cs)) := by
  have hbytes := charBytes_utf8EncodeChar c
  obtain ⟨b, tail, hcons⟩ := List.exists_cons_of_ne_nil (String.utf8EncodeChar_ne_nil (c := c))
  rw [hcons] at hbytes
  rw [encode_ofList, encode_ofList, List.flatMap_cons, hcons]
  exact ⟨b, _, rfl, hbytes.readsAs _⟩

theorem exists_of_firstFault? {index : Nat} (h : firstFault? index bs = none) : ∃ cs, encode (String.ofList cs) = bs := by
  simp only [encode_ofList]
  induction index, bs using firstFault?.induct with
  | case1 index => exact ⟨[], rfl⟩
  | case2 index b bs hl =>
    rw [firstFault?, hl] at h
    cases h
  | case3 index b bs l hl r read hsome ih =>
    rw [firstFault?, hl] at h
    dsimp only at h
    rw [if_pos hsome] at h
    obtain ⟨n, hn⟩ := Option.isSome_iff_exists.1 hsome
    have hread : ReadsAs b bs n r.2 := ⟨l, hl, Prod.ext hn rfl⟩
    obtain ⟨tail, hbs, hbytes⟩ := hread.exists_charBytes
    obtain ⟨c, -, hc⟩ := hbytes.exists_char
    obtain ⟨cs, hcs⟩ := ih h
    exact ⟨c :: cs, by rw [List.flatMap_cons, hc, hcs, hbs, List.cons_append]⟩
  | case4 index b bs l hl r hsome =>
    rw [firstFault?, hl] at h
    dsimp only at h
    rw [if_neg hsome] at h
    cases h

theorem firstFault?_encode (cs : List Char) (index : Nat) : firstFault? index (encode (String.ofList cs)) = none := by
  induction cs generalizing index with
  | nil => rw [encode_ofList, List.flatMap_nil, firstFault?]
  | cons c cs ih =>
    obtain ⟨b, bs, hbytes, l, hl, hread⟩ := exists_readsAs c cs
    rw [hbytes, firstFault?, hl]
    dsimp only
    rw [hread]
    exact ih _

/-- Bytes have no fault exactly if they are the bytes of a text. -/
theorem firstFault?_eq_none_iff {index : Nat} : firstFault? index bs = none ↔ ∃ s, encode s = bs := by
  constructor
  · intro h
    obtain ⟨cs, hcs⟩ := exists_of_firstFault? h
    exact ⟨String.ofList cs, hcs⟩
  · rintro ⟨s, rfl⟩
    rw [← String.ofList_toList (s := s)]
    exact firstFault?_encode _ index

theorem decode_encode (cs : List Char) : decode (encode (String.ofList cs)) = cs.map some := by
  induction cs with
  | nil => rw [encode_ofList, List.flatMap_nil, decode, List.map_nil]
  | cons c cs ih =>
    obtain ⟨b, bs, hbytes, l, hl, hread⟩ := exists_readsAs c cs
    rw [hbytes, decode, hl]
    dsimp only
    rw [hread, ih, Option.map_some, Char.ofNat_toNat, List.map_cons]

/-- The bytes of a text are decoded as the text. -/
theorem decodeLenient_encode (s : String) : decodeLenient (encode s) = s := by
  have hchars : (fun c : Option Char => c.getD (Char.ofNat 0xfffd)) ∘ some = id := rfl
  have hdecode : decode (encode s) = s.toList.map some := by rw [← decode_encode, String.ofList_toList]
  rw [decodeLenient, hdecode, List.map_map, hchars, List.map_id, String.ofList_toList]

end SwitchFabric.Text
