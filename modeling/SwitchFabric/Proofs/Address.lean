import SwitchFabric.Address
import SwitchFabric.Proofs.Text.Search

/-!
# Addresses read back

An address is read from the text that it is written as (`IpAddress.parse_toText`). The bytes of an IPv4 address are told
apart by their dots. The groups of an IPv6 address are told apart by their colons, and no group is mistaken for the start
of a dotted address, since there is no dot in the text (`V4.dot_mem_of_readFront`). Where `::` stands for zeros, as many
are put back as were left out (`V6.eq_of_longestZeros`).
-/

namespace SwitchFabric

namespace Text

/-- Only zero is written with a zero in front. -/
theorem eq_zero_of_head?_toDigits {b n : Nat} (hb : 1 < b) (h : (Nat.toDigits b n).head? = some '0') : n = 0 := by
  induction n using Nat.base_induction b hb with
  | single m hm => simpa [Nat.toDigits_of_lt_base hm] using h
  | digit m k hk hm ih =>
    rw [← Nat.toDigits_append_toDigits hb hm hk, List.head?_append] at h
    cases hd : Nat.toDigits b m with
    | nil => exact absurd hd Nat.toDigits_ne_nil
    | cons c cs =>
      rw [hd] at h ih
      exact absurd (ih h) (Nat.ne_of_gt hm)

end Text

namespace Address

open Text.Pattern (StartsOutside startsOutside_nil startsOutside_cons takeWhile_append_of_startsOutside
  dropWhile_append_of_startsOutside)

/-! ## Four bytes -/

namespace V4

/-- A byte is read up to what is no digit. -/
theorem readByte_digits (b : UInt8) {rest : List Char} (hrest : StartsOutside Char.isDigit rest) :
    readByte (Text.digits b.toNat ++ rest) = some (b, rest) := by
  have hdigits : ∀ c ∈ Text.digits b.toNat, c.isDigit = true := fun c => Text.isDigit_of_mem_digits
  have hbyte : b.toNat < 256 := b.toNat_lt
  have hlength : (Text.digits b.toNat).length ≤ 3 :=
    (Nat.length_toDigits_le_iff (by omega) (by omega)).2 (by omega)
  have hzero : (Text.digits b.toNat).head? ≠ some '0' ∨ (Text.digits b.toNat).length = 1 := by
    by_cases h : (Text.digits b.toNat).head? = some '0'
    · rw [Text.eq_zero_of_head?_toDigits (by omega) h]
      exact .inr rfl
    · exact .inl h
  have hlimit : b.toNat ≤ Text.byteLimit := by
    rw [Text.byteLimit]
    omega
  rw [readByte, takeWhile_append_of_startsOutside hdigits hrest, dropWhile_append_of_startsOutside hdigits hrest]
  simp [hlength, hzero, Text.value?_digits, hlimit]

theorem readFront_print (v : V4) {rest : List Char} (hrest : StartsOutside Char.isDigit rest) :
    readFront (v.print ++ rest) = some (v, rest) := by
  have hdot (cs : List Char) : StartsOutside Char.isDigit ('.' :: cs) := startsOutside_cons.2 rfl
  simp only [readFront, print, List.append_assoc, List.cons_append]
  rw [readByte_digits _ (hdot _)]
  simp only [Option.bind_eq_bind, Option.bind_some, afterDot]
  rw [readByte_digits _ (hdot _)]
  simp only [Option.bind_some]
  rw [readByte_digits _ (hdot _)]
  simp only [Option.bind_some]
  rw [readByte_digits _ hrest]
  rfl

theorem parse_print (v : V4) : parse v.print = some v := by
  have h : readFront (v.print ++ []) = some (v, []) := readFront_print v startsOutside_nil
  rw [List.append_nil] at h
  rw [parse, h]

/-- A dotted address has a dot. -/
theorem dot_mem_of_readFront {cs : List Char} {r : V4 × List Char} (h : readFront cs = some r) : '.' ∈ cs := by
  rw [readFront] at h
  obtain ⟨⟨a, rest⟩, ha, h⟩ := Option.bind_eq_some_iff.1 h
  obtain ⟨rest', hdot, -⟩ := Option.bind_eq_some_iff.1 h
  have hrest : rest = cs.dropWhile Char.isDigit := by
    rw [readByte] at ha
    split at ha
    · split at ha
      · split at ha
        · cases ha
          rfl
        · cases ha
      · cases ha
    · cases ha
  have hmem : '.' ∈ rest := by
    unfold afterDot at hdot
    split at hdot
    · exact List.mem_cons_self
    · cases hdot
  rw [hrest] at hmem
  exact (List.dropWhile_sublist _).subset hmem

theorem readFront_eq_none {cs : List Char} (h : '.' ∉ cs) : readFront cs = none := by
  cases hr : readFront cs with
  | none => rfl
  | some r => exact absurd (dot_mem_of_readFront hr) h

theorem mem_print {v : V4} {c : Char} (h : c ∈ v.print) : c.isDigit = true ∨ c = '.' := by
  simp only [print, List.append_assoc, List.cons_append, List.mem_append, List.mem_cons] at h
  rcases h with h | rfl | h | rfl | h | rfl | h <;>
    first | exact .inr rfl | exact .inl (Text.isDigit_of_mem_digits h)

end V4

/-! ## Eight groups -/

namespace V6

theorem hex_digitChar {d : Nat} (h : d < 16) : isHex (Nat.digitChar d) = true ∧ hexValue? (Nat.digitChar d) = some d := by
  revert d
  decide

theorem isHex_of_mem_toDigits {n : Nat} {c : Char} (h : c ∈ Nat.toDigits 16 n) : isHex c = true := by
  induction n using Nat.base_induction 16 (by omega) with
  | single m hm =>
    rw [Nat.toDigits_of_lt_base hm, List.mem_singleton] at h
    rw [h]
    exact (hex_digitChar hm).1
  | digit m k hk hm ih =>
    rw [← Nat.toDigits_append_toDigits (by omega) hm hk, List.mem_append, Nat.toDigits_of_lt_base hk,
      List.mem_singleton] at h
    rcases h with h | rfl
    · exact ih h
    · exact (hex_digitChar hk).1

/-- The value of the digits of a number is the number. -/
theorem foldl_toDigits (n : Nat) :
    (Nat.toDigits 16 n).foldl (fun n c => n * 16 + (hexValue? c).getD 0) 0 = n := by
  induction n using Nat.base_induction 16 (by omega) with
  | single m hm =>
    rw [Nat.toDigits_of_lt_base hm, List.foldl_cons, (hex_digitChar hm).2]
    simp
  | digit m k hk hm ih =>
    rw [← Nat.toDigits_append_toDigits (by omega) hm hk, List.foldl_append, ih, Nat.toDigits_of_lt_base hk,
      List.foldl_cons, (hex_digitChar hk).2]
    simp [Nat.mul_comm]

/-- A group is read up to what is no digit. -/
theorem readGroup_hexDigits (g : UInt16) {rest : List Char} (hrest : StartsOutside isHex rest) :
    readGroup (hexDigits g ++ rest) = some (g, rest) := by
  have hhex : ∀ c ∈ hexDigits g, isHex c = true := fun c => isHex_of_mem_toDigits
  have hgroup : g.toNat < 65536 := g.toNat_lt
  have hlength : (hexDigits g).length ≤ 4 := (Nat.length_toDigits_le_iff (by omega) (by omega)).2 (by omega)
  have hpos : 1 ≤ (hexDigits g).length := Nat.length_toDigits_pos
  rw [readGroup, takeWhile_append_of_startsOutside hhex hrest, dropWhile_append_of_startsOutside hhex hrest]
  rw [if_pos (by simp [hlength, hpos]), hexDigits, foldl_toDigits, UInt16.ofNat_toNat]

theorem dot_hexDigits (g : UInt16) : '.' ∉ hexDigits g := fun h => by
  have := isHex_of_mem_toDigits h
  revert this
  decide

/-- Groups with a colon in front of each. -/
def laterGroups (gs : List UInt16) : List Char := gs.flatMap fun g => ':' :: hexDigits g

theorem printGroups_cons (g : UInt16) (gs : List UInt16) : printGroups (g :: gs) = hexDigits g ++ laterGroups gs := by
  induction gs generalizing g with
  | nil => exact (List.append_nil _).symm
  | cons h gs ih =>
    rw [printGroups, ih]
    · rfl
    · exact List.cons_ne_nil h gs

theorem dot_laterGroups (gs : List UInt16) : '.' ∉ laterGroups gs := fun h => by
  obtain ⟨g, -, h⟩ := List.mem_flatMap.1 h
  rcases List.mem_cons.1 h with h | h
  · cases h
  · exact dot_hexDigits g h

/-! ### Reading groups -/

/-- No more groups follow: the text ends or goes on with `::`. -/
def Stops (rest : List Char) : Prop := rest = [] ∨ ∃ tail, rest = ':' :: ':' :: tail

theorem Stops.startsOutside {rest : List Char} (h : Stops rest) : StartsOutside isHex rest := by
  obtain rfl | ⟨tail, rfl⟩ := h
  · exact startsOutside_nil
  · exact startsOutside_cons.2 rfl

/-- Where no digit stands, no group is read. -/
theorem readGroups_of_startsOutside {body : List Char} (hbody : StartsOutside isHex body) (limit : Nat)
    {first : Bool} {cs : List Char} (hcolon : afterColon first cs = some body) :
    readGroups limit first cs = ⟨[], false, cs⟩ := by
  have hdigit : StartsOutside Char.isDigit body := fun c hc => by
    cases hd : c.isDigit with
    | false => rfl
    | true => simpa [isHex, hexValue?, hd] using hbody c hc
  have hgroup : readGroup body = none := by
    rw [readGroup, hbody.takeWhile_eq_nil]
    rfl
  have hfront : V4.readFront body = none := by
    rw [V4.readFront, V4.readByte, hdigit.takeWhile_eq_nil]
    rfl
  cases limit with
  | zero => rfl
  | succ limit => rw [readGroups, hcolon]; simp [hgroup, hfront]

theorem readGroups_of_stops {rest : List Char} (h : Stops rest) (limit : Nat) (first : Bool) :
    readGroups limit first rest = ⟨[], false, rest⟩ := by
  cases first with
  | true => exact readGroups_of_startsOutside h.startsOutside limit rfl
  | false =>
    obtain rfl | ⟨tail, rfl⟩ := h
    · cases limit <;> rfl
    · have hcolon : StartsOutside isHex (':' :: tail) := startsOutside_cons.2 rfl
      exact readGroups_of_startsOutside hcolon limit rfl

/-- One group more. -/
theorem readGroups_succ (limit : Nat) {first : Bool} {cs : List Char} {g : UInt16} {tail : List Char}
    (hcolon : afterColon first cs = some (hexDigits g ++ tail)) (htail : StartsOutside isHex tail)
    (hfront : V4.readFront (hexDigits g ++ tail) = none) :
    readGroups (limit + 1) first cs =
      { readGroups limit false tail with groups := g :: (readGroups limit false tail).groups } := by
  rw [readGroups, hcolon]
  simp [hfront, readGroup_hexDigits g htail]

theorem startsOutside_laterGroups {rest : List Char} (hrest : Stops rest) (gs : List UInt16) :
    StartsOutside isHex (laterGroups gs ++ rest) := by
  cases gs with
  | nil => exact hrest.startsOutside
  | cons g gs => exact startsOutside_cons.2 rfl

theorem readGroups_laterGroups {rest : List Char} (hrest : Stops rest) (hdot : '.' ∉ rest) {gs : List UInt16}
    {limit : Nat} (h : gs.length ≤ limit) : readGroups limit false (laterGroups gs ++ rest) = ⟨gs, false, rest⟩ := by
  induction gs generalizing limit with
  | nil => exact readGroups_of_stops hrest limit false
  | cons g gs ih =>
    cases limit with
    | zero => simp at h
    | succ limit =>
      have hcolon : afterColon false (laterGroups (g :: gs) ++ rest) = some (hexDigits g ++ (laterGroups gs ++ rest)) := by
        simp [laterGroups, afterColon]
      have hnodot : '.' ∉ hexDigits g ++ (laterGroups gs ++ rest) := by
        simp [dot_hexDigits, dot_laterGroups, hdot]
      rw [readGroups_succ limit hcolon (startsOutside_laterGroups hrest gs) (V4.readFront_eq_none hnodot),
        ih (by simpa using h)]

/-- Groups are read up to where they stop. -/
theorem readGroups_printGroups {rest : List Char} (hrest : Stops rest) (hdot : '.' ∉ rest) {gs : List UInt16}
    {limit : Nat} (h : gs.length ≤ limit) : readGroups limit true (printGroups gs ++ rest) = ⟨gs, false, rest⟩ := by
  cases gs with
  | nil => exact readGroups_of_stops hrest limit true
  | cons g gs =>
    cases limit with
    | zero => simp at h
    | succ limit =>
      have hnodot : '.' ∉ hexDigits g ++ (laterGroups gs ++ rest) := by
        simp [dot_hexDigits, dot_laterGroups, hdot]
      rw [printGroups_cons, List.append_assoc, readGroups_succ limit rfl (startsOutside_laterGroups hrest gs)
        (V4.readFront_eq_none hnodot), readGroups_laterGroups hrest hdot (by simpa using h)]

theorem dot_printGroups (gs : List UInt16) : '.' ∉ printGroups gs := by
  cases gs with
  | nil => exact List.not_mem_nil
  | cons g gs => simp [printGroups_cons, dot_hexDigits, dot_laterGroups]

/-! ### Zeros left out -/

theorem eq_zeros_append (gs : List UInt16) : gs = List.replicate (zeros gs) 0 ++ gs.drop (zeros gs) := by
  induction gs with
  | nil => rfl
  | cons g gs ih =>
    rw [zeros, List.takeWhile_cons]
    split
    · next hg =>
      rw [beq_iff_eq.1 hg, List.length_cons, List.replicate_succ, List.drop_succ_cons, List.cons_append]
      exact congrArg _ ih
    · rfl

/-- The run that is found consists of zeros. -/
theorem eq_of_longestZeros (position : Nat) (gs : List UInt16) :
    ∃ start, (longestZeros position gs).1 = position + start ∧
      gs = gs.take start ++ List.replicate (longestZeros position gs).2 0 ++
        gs.drop (start + (longestZeros position gs).2) := by
  induction gs generalizing position with
  | nil => exact ⟨0, rfl, rfl⟩
  | cons g gs ih =>
    obtain ⟨start, hstart, hgs⟩ := ih (position + 1)
    rw [longestZeros]
    split
    · refine ⟨0, rfl, ?_⟩
      rw [List.take_zero, List.nil_append, Nat.zero_add]
      exact eq_zeros_append (g :: gs)
    · refine ⟨start + 1, by omega, ?_⟩
      rw [List.take_succ_cons, Nat.add_right_comm, List.drop_succ_cons, List.cons_append, List.cons_append, ← hgs]

/-! ### Whole addresses -/

theorem parse_printGroups (v : V6) : parse (printGroups v.groups) = some v := by
  have h := readGroups_printGroups (.inl rfl) List.not_mem_nil (Nat.le_of_eq v.eight)
  rw [List.append_nil] at h
  rw [parse, h]
  simp [v.eight, ofGroups?]

/-- What is read on the two sides of `::` is put together with as many zeros as are left to eight groups. -/
theorem parse_of_readGroups {front back : List UInt16} {dotted : Bool} {cs rest : List Char}
    (hfront : readGroups 8 true cs = ⟨front, false, ':' :: ':' :: rest⟩) (hshort : front.length ≠ 8)
    (hback : readGroups (7 - front.length) true rest = ⟨back, dotted, []⟩) :
    parse cs = ofGroups? (front ++ List.replicate (8 - front.length - back.length) 0 ++ back) := by
  rw [parse, hfront]
  simp [hback, hshort]

theorem parse_zeros {front back : List UInt16} (h : front.length + back.length < 8) :
    parse (printGroups front ++ ':' :: ':' :: printGroups back) =
      ofGroups? (front ++ List.replicate (8 - front.length - back.length) 0 ++ back) := by
  have hdot : '.' ∉ ':' :: ':' :: printGroups back := by simp [dot_printGroups]
  have hfront := readGroups_printGroups (.inr ⟨_, rfl⟩) hdot (show front.length ≤ 8 by omega)
  have hback := readGroups_printGroups (.inl rfl) List.not_mem_nil (show back.length ≤ 7 - front.length by omega)
  rw [List.append_nil] at hback
  exact parse_of_readGroups hfront (by omega) hback

/-- Two bytes make up a group. -/
theorem bytes_group (g : UInt16) : (g / 256).toUInt8.toUInt16 * 256 + (g % 256).toUInt8.toUInt16 = g := by
  refine UInt16.toNat_inj.1 ?_
  have hg : g.toNat < 65536 := g.toNat_lt
  simp only [UInt16.toNat_add, UInt16.toNat_mul, UInt8.toNat_toUInt16, UInt16.toNat_toUInt8, UInt16.toNat_div,
    UInt16.toNat_mod, UInt16.reduceToNat]
  omega

theorem eq_of_embedded {gs : List UInt16} {w : V4} (h : embedded? gs = some w) :
    gs = [0, 0, 0, 0, 0, 0xffff, w.a.toUInt16 * 256 + w.b.toUInt16, w.c.toUInt16 * 256 + w.d.toUInt16] := by
  unfold embedded? at h
  split at h
  · cases h
    rw [bytes_group, bytes_group]
  · cases h

/-- The address that embeds an IPv4 address is read from the dotted text. -/
theorem parse_embedded (w : V4) :
    parse ("::ffff:".toList ++ w.print) =
      ofGroups? [0, 0, 0, 0, 0, 0xffff, w.a.toUInt16 * 256 + w.b.toUInt16, w.c.toUInt16 * 256 + w.d.toUInt16] := by
  have hfront : readGroups 8 true ("::ffff:".toList ++ w.print) = ⟨[], false, ':' :: ':' :: ("ffff:".toList ++ w.print)⟩ :=
    readGroups_of_stops (.inr ⟨_, rfl⟩) 8 true
  have hdotted : V4.readFront (w.print ++ []) = some (w, []) := V4.readFront_print w startsOutside_nil
  rw [List.append_nil] at hdotted
  have hlast : readGroups 6 false (':' :: w.print) =
      ⟨[w.a.toUInt16 * 256 + w.b.toUInt16, w.c.toUInt16 * 256 + w.d.toUInt16], true, []⟩ := by
    rw [readGroups, afterColon]
    simp [hdotted]
  have hback : readGroups 7 true ("ffff:".toList ++ w.print) =
      ⟨[0xffff, w.a.toUInt16 * 256 + w.b.toUInt16, w.c.toUInt16 * 256 + w.d.toUInt16], true, []⟩ := by
    have hcolon : afterColon true ("ffff:".toList ++ w.print) = some (hexDigits 0xffff ++ ':' :: w.print) := rfl
    rw [readGroups_succ 6 hcolon (by rintro c ⟨⟩; rfl) rfl, hlast]
  exact parse_of_readGroups hfront (by decide) hback

/-- An address is read from its text. -/
theorem parse_print (v : V6) : parse v.print = some v := by
  rw [print]
  cases he : embedded? v.groups with
  | some w =>
    have hgroups := eq_of_embedded he
    dsimp only
    rw [parse_embedded, ← hgroups, ofGroups?, dif_pos v.eight]
  | none =>
    obtain ⟨start, hstart, hgroups⟩ := eq_of_longestZeros 0 v.groups
    dsimp only
    rw [Nat.zero_add] at hstart
    rw [hstart]
    generalize (longestZeros 0 v.groups).2 = count at hgroups ⊢
    have hlength := congrArg List.length hgroups
    simp only [List.length_append, List.length_take, List.length_replicate, List.length_drop, v.eight] at hlength
    split
    · have hzeros : 8 - (v.groups.take start).length - (v.groups.drop (start + count)).length = count := by
        simp only [List.length_take, List.length_drop, v.eight]
        omega
      rw [parse_zeros (by simp only [List.length_take, List.length_drop, v.eight]; omega), hzeros, ← hgroups,
        ofGroups?, dif_pos v.eight]
    · exact parse_printGroups v

theorem mem_printGroups {gs : List UInt16} {c : Char} (h : c ∈ printGroups gs) : isHex c = true ∨ c = ':' := by
  cases gs with
  | nil => cases h
  | cons g gs =>
    rw [printGroups_cons, List.mem_append, laterGroups, List.mem_flatMap] at h
    obtain h | ⟨g, -, h⟩ := h
    · exact .inl (isHex_of_mem_toDigits h)
    · exact (List.mem_cons.1 h).symm.imp_left isHex_of_mem_toDigits

/-- What an address is written with. -/
theorem mem_print {v : V6} {c : Char} (h : c ∈ v.print) : isHex c = true ∨ c = ':' ∨ c = '.' := by
  have hgroups {gs : List UInt16} (h : c ∈ printGroups gs) : isHex c = true ∨ c = ':' ∨ c = '.' :=
    (mem_printGroups h).imp_right .inl
  rw [print] at h
  split at h
  · rcases List.mem_append.1 h with h | h
    · have hword : ("::ffff:".toList.all fun c => isHex c || c == ':') = true := by decide
      exact (Bool.or_eq_true_iff.1 (List.all_eq_true.1 hword c h)).imp_right fun hc => .inl (beq_iff_eq.1 hc)
    · refine (V4.mem_print h).imp (fun hd => ?_) .inr
      simp [isHex, hexValue?, hd]
  · dsimp only at h
    split at h
    · rcases List.mem_append.1 h with h | h
      · exact hgroups h
      · rcases List.mem_cons.1 h with rfl | h
        · exact .inr (.inl rfl)
        · rcases List.mem_cons.1 h with rfl | h
          · exact .inr (.inl rfl)
          · exact hgroups h
    · exact hgroups h

theorem colon_mem_print (v : V6) : ':' ∈ v.print := by
  rw [print]
  split
  · exact List.mem_append_left _ (by decide)
  · dsimp only
    split
    · exact List.mem_append_right _ List.mem_cons_self
    · obtain ⟨groups, height⟩ := v
      match groups, height with
      | g :: h :: gs, _ =>
        show ':' ∈ printGroups (g :: h :: gs)
        rw [printGroups_cons, laterGroups, List.flatMap_cons]
        exact List.mem_append_right _ (List.mem_append_left _ List.mem_cons_self)

end V6

end Address

namespace IpAddress

open Address

theorem isBlank_of_isHex {c : Char} (h : V6.isHex c = true) : Text.isBlank c = false := by
  have hrange : 48 ≤ c.toNat ∧ c.toNat ≤ 102 := by
    simp only [V6.isHex, V6.hexValue?, Char.isDigit, Char.le_def, UInt32.le_iff_toNat_le, Bool.and_eq_true,
      decide_eq_true_eq] at h
    split at h
    · next hd => exact ⟨hd.1, Nat.le_trans hd.2 (by decide)⟩
    · split at h
      · next ha => exact ⟨Nat.le_trans (by decide) ha.1, ha.2⟩
      · split at h
        · next hA => exact ⟨Nat.le_trans (by decide) hA.1, Nat.le_trans hA.2 (by decide)⟩
        · cases h
  simp only [Text.isBlank, Bool.or_eq_false_iff, Bool.and_eq_false_imp, decide_eq_true_eq, decide_eq_false_iff_not,
    beq_eq_false_iff_ne]
  omega

theorem mem_toText {a : IpAddress} {c : Char} (h : c ∈ a.toText.toList) : V6.isHex c = true ∨ c = ':' ∨ c = '.' := by
  cases a with
  | v4 a =>
    rw [toText, String.toList_ofList] at h
    refine (V4.mem_print h).imp (fun hd => ?_) .inr
    simp [V6.isHex, V6.hexValue?, hd]
  | v6 a =>
    rw [toText, String.toList_ofList] at h
    exact V6.mem_print h

theorem trim_toText (a : IpAddress) : Text.trim a.toText.toList = a.toText.toList := by
  refine Text.trim_eq_self fun c hc => ?_
  obtain h | rfl | rfl := mem_toText hc
  · exact isBlank_of_isHex h
  · rfl
  · rfl

/-- An address is read from the text that it is written as. -/
theorem parse_toText (a : IpAddress) : parse a.toText.toList = .ok a := by
  rw [parse, trim_toText]
  cases a with
  | v4 a =>
    have hcolon : ':' ∉ a.print := fun h => by
      obtain h | h := V4.mem_print h <;> revert h <;> decide
    rw [toText, String.toList_ofList, if_neg hcolon, V4.parse_print]
    rfl
  | v6 a =>
    rw [toText, String.toList_ofList, if_pos (V6.colon_mem_print a), V6.parse_print]
    rfl

end IpAddress

end SwitchFabric
