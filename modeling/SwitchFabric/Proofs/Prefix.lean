import SwitchFabric.Proofs.Address
import SwitchFabric.Proofs.Text.Numbers
import SwitchFabric.Proofs.Text.Search

/-!
# The texts of prefixes

A prefix is read from an address and a length around the last slash of a text (`IpPrefix.parse_eq_ok_iff`), and blanks around
either do not count (`IpAddress.parse_append`, `readUpTo_between`). So an address and a prefix read back from what they are
written as, and a text that is read as a prefix may be replaced by the text that the prefix is written as
(`IpPrefix.reads_back_between_blanks`).
-/

namespace SwitchFabric

open Text

variable {before behind : List Char}

/-! ## Blanks -/

/-- Blanks around an address do not count. -/
theorem IpAddress.parse_append (hbefore : ∀ c ∈ before, isBlank c = true) (hbehind : ∀ c ∈ behind, isBlank c = true)
    (cs : List Char) : parse (before ++ (cs ++ behind)) = parse cs := by
  unfold parse
  rw [trim_append hbefore hbehind]

/-- A number is read from its digits between blanks. -/
theorem readUpTo_between {n limit : Nat} (hbefore : ∀ c ∈ before, isBlank c = true)
    (hbehind : ∀ c ∈ behind, isBlank c = true) (hn : n ≤ limit) :
    readUpTo limit (trim (before ++ (digits n ++ behind))) = some n := by
  rw [trim_append hbefore hbehind, trim_eq_self (solid_digits n), readUpTo_digits hn]

/-! ## The grammar -/

theorem IpAddress.bits_eq (a : IpAddress) : a.bits = if a.isV4 then 32 else 128 := by cases a <;> rfl

namespace IpPrefix

theorem ofAddress_length (p : IpPrefix) : ofAddress p.address p.length = .ok p := dif_pos p.fits

/-- The texts of a prefix: the length stands behind the last slash. -/
theorem parse_eq_ok_iff {cs : List Char} {p : IpPrefix} :
    parse cs = .ok p ↔ ∃ address length, cs = address ++ '/' :: length ∧ '/' ∉ length ∧
      IpAddress.parse address = .ok p.address ∧ readUpTo byteLimit (trim length) = some p.length := by
  constructor
  · intro h
    rw [parse] at h
    split at h
    · cases h
    next address length hcut =>
    split at h
    · cases h
    next a ha =>
    split at h
    · cases h
    next n hn =>
    obtain ⟨hcs, hslash⟩ := eq_append_of_splitLast hcut
    unfold ofAddress at h
    split at h
    · cases h
      exact ⟨address, length, hcs, hslash, ha, hn⟩
    · cases h
  · rintro ⟨address, length, rfl, hslash, ha, hn⟩
    rw [parse, splitLast_append hslash]
    simp only [ha, hn, ofAddress_length]

/-! ## Reading back -/

/-- The length of a prefix is a byte. -/
theorem length_le_byteLimit (p : IpPrefix) : p.length ≤ byteLimit := by
  have hbits : p.address.bits ≤ byteLimit := by
    rw [IpAddress.bits_eq]
    split <;> decide
  exact Nat.le_trans p.fits hbits

/-- A length beyond the family is refused. -/
theorem parse_ne_ok_of_bits_lt {a : IpAddress} {n : Nat} (hlong : a.bits < n) (p : IpPrefix) :
    parse (a.toText.toList ++ '/' :: digits n) ≠ .ok p := by
  intro h
  have hslash : '/' ∉ digits n := notMem_digits rfl n
  obtain ⟨address, length, hcs, hslash', ha, hn⟩ := parse_eq_ok_iff.1 h
  have hcut : some (a.toText.toList, digits n) = some (address, length) := by
    rw [← splitLast_append hslash, hcs, splitLast_append hslash']
  obtain ⟨rfl, rfl⟩ := Prod.mk.inj (Option.some.inj hcut)
  rw [IpAddress.parse_toText] at ha
  rw [trim_eq_self (solid_digits n)] at hn
  have hfits := p.fits
  rw [← Except.ok.inj ha, ← eq_of_readUpTo_digits hn] at hfits
  exact absurd hfits (Nat.not_le.2 hlong)

/-- A prefix is read from its address and its length, with blanks at both ends and around the slash. -/
theorem parse_between (p : IpPrefix) {start left right finish : List Char} (hstart : ∀ c ∈ start, isBlank c = true)
    (hleft : ∀ c ∈ left, isBlank c = true) (hright : ∀ c ∈ right, isBlank c = true)
    (hfinish : ∀ c ∈ finish, isBlank c = true) :
    parse (start ++ (p.address.toText.toList ++ left) ++ '/' :: (right ++ (digits p.length ++ finish))) = .ok p := by
  have hgap {cs : List Char} (h : ∀ c ∈ cs, isBlank c = true) : '/' ∉ cs := fun hslash => absurd (h _ hslash) (by decide)
  refine parse_eq_ok_iff.2 ⟨_, _, rfl, ?_, ?_, readUpTo_between hright hfinish p.length_le_byteLimit⟩
  · simp only [List.mem_append, not_or]
    exact ⟨hgap hright, notMem_digits rfl p.length, hgap hfinish⟩
  · rw [IpAddress.parse_append hstart hleft, IpAddress.parse_toText]

theorem toList_toText (p : IpPrefix) : p.toText.toList = p.address.toText.toList ++ '/' :: digits p.length := by
  simp [toText, decimal]

theorem parse_toText (p : IpPrefix) : parse p.toText.toList = .ok p := by
  have h : parse ([] ++ (p.address.toText.toList ++ []) ++ '/' :: ([] ++ (digits p.length ++ []))) = .ok p :=
    p.parse_between nofun nofun nofun nofun
  simpa [toList_toText] using h

/-- Addresses of both families read back from what they are written as, also with blanks around them, and so do prefixes,
also with blanks around the address and the length. Whatever text a prefix is read from, its length is within its family,
and it reads back from the text that it is written as. A length beyond the family is refused. -/
theorem reads_back_between_blanks :
    (∀ (a : IpAddress) (before behind : List Char), (∀ c ∈ before, isBlank c = true) → (∀ c ∈ behind, isBlank c = true) →
      IpAddress.parse (before ++ (a.toText.toList ++ behind)) = .ok a) ∧
    (∀ p : IpPrefix, parse p.toText.toList = .ok p ∧ ∀ start left right finish : List Char,
      (∀ c ∈ start, isBlank c = true) → (∀ c ∈ left, isBlank c = true) → (∀ c ∈ right, isBlank c = true) →
        (∀ c ∈ finish, isBlank c = true) →
          parse (start ++ (p.address.toText.toList ++ left) ++ '/' :: (right ++ (digits p.length ++ finish))) = .ok p) ∧
    (∀ (cs : List Char) (p : IpPrefix), parse cs = .ok p →
      (p.address.isV4 = true → p.length ≤ 32) ∧ (p.address.isV4 = false → p.length ≤ 128) ∧
        parse p.toText.toList = .ok p) ∧
    ∀ (a : IpAddress) (n : Nat), a.bits < n → ∀ p, parse (a.toText.toList ++ '/' :: digits n) ≠ .ok p := by
  refine ⟨fun a before behind hbefore hbehind => ?_,
    fun p => ⟨p.parse_toText, fun start left right finish hstart hleft hright hfinish => ?_⟩,
    fun cs p _ => ⟨fun hfamily => ?_, fun hfamily => ?_, p.parse_toText⟩, fun a n => parse_ne_ok_of_bits_lt⟩
  · rw [IpAddress.parse_append hbefore hbehind, IpAddress.parse_toText]
  · exact p.parse_between hstart hleft hright hfinish
  · have hfits := p.fits
    rwa [IpAddress.bits_eq, if_pos hfamily] at hfits
  · have hfits := p.fits
    rwa [IpAddress.bits_eq, if_neg (Bool.eq_false_iff.1 hfamily)] at hfits

/-- An IPv4 address within IPv6 with blanks around it, a prefix with a blank in front of the slash, one in a longer spelling
than it is written in, and a length that is too long. -/
theorem reads_back_between_blanks_spellings :
    let v4 : IpAddress := .v4 ⟨10, 0, 0, 1⟩
    let embedded : IpAddress := .v6 ⟨[0, 0, 0, 0, 0, 0xffff, 0x0a00, 0x0001], rfl⟩
    let v6 : IpAddress := .v6 ⟨[0x2001, 0xdb8, 0, 0, 0, 0, 0, 1], rfl⟩
    let p : IpPrefix := ⟨v4, 30, by decide⟩
    let q : IpPrefix := ⟨v6, 64, by decide⟩
    (embedded.toText = "::ffff:10.0.0.1" ∧ IpAddress.parse "\t::ffff:10.0.0.1\u00a0".toList = .ok embedded) ∧
      parse "10.0.0.1 /30\n".toList = .ok p ∧
      (parse "2001:DB8:0::0:1/ +064".toList = .ok q ∧ q.length ≤ 128 ∧ q.toText = "2001:db8::1/64" ∧
        parse q.toText.toList = .ok q) ∧
      (v4.bits < 33 ∧ ∀ r, parse "10.0.0.1/33".toList ≠ .ok r) := by
  intro v4 embedded v6 p q
  obtain ⟨haddress, hprefixes, hread, hlong⟩ := reads_back_between_blanks
  have hembedded : "\t::ffff:10.0.0.1\u00a0".toList = ['\t'] ++ (embedded.toText.toList ++ ['\u00a0']) := by decide +kernel
  have hp : "10.0.0.1 /30\n".toList =
      [] ++ (p.address.toText.toList ++ [' ']) ++ '/' :: ([] ++ (digits p.length ++ ['\n'])) := by
    decide +kernel
  have hq : q.toText = "2001:db8::1/64" := by decide +kernel
  have hv4 : "10.0.0.1/33".toList = v4.toText.toList ++ '/' :: digits 33 := by decide +kernel
  have hspelling : parse "2001:DB8:0::0:1/ +064".toList = .ok q := rfl
  obtain ⟨-, hlength, hback⟩ := hread _ q hspelling
  refine ⟨⟨by decide +kernel, ?_⟩, ?_, ⟨hspelling, hlength rfl, hq, hback⟩, by decide, ?_⟩
  · rw [hembedded]
    exact haddress embedded ['\t'] ['\u00a0'] (List.all_eq_true.1 rfl) (List.all_eq_true.1 rfl)
  · rw [hp]
    exact (hprefixes p).2 [] [' '] [] ['\n'] nofun (List.all_eq_true.1 rfl) nofun (List.all_eq_true.1 rfl)
  · rw [hv4]
    exact hlong v4 33 (by decide)

end IpPrefix

end SwitchFabric
