import SwitchFabric.Proofs.Text.Numbers
import SwitchFabric.Proofs.Text.Utf8
import SwitchFabric.Text.LetterCase
import SwitchFabric.Vlan

/-!
# The texts of VLANs

A VLAN is written as a number, perhaps with a plus sign, perhaps behind the word `vlan` in any letter case
(`VlanId.Denotes`), and no other text is read as one (`VlanId.parse_eq_ok_iff`).

The word can be looked for in the lower case of the text (`VlanId.startsWithWord_iff`): only letters of ASCII have a letter of
the word as their small letter, so the word has as many bytes as letters (`VlanId.length_encode_word`), and what is behind it
starts with a character.

The name of a VLAN device is cut at its last dot (`VlanId.splitDevice_eq_some_iff`).
-/

namespace SwitchFabric

namespace VlanId

open Text

variable {cs word : List Char} {n : Nat}

/-! ## The word -/

/-- The text is the word `vlan` in some letter case. -/
def IsWord (cs : List Char) : Prop := cs.map Char.toLower = "vlan".toList

instance (cs : List Char) : Decidable (IsWord cs) := inferInstanceAs (Decidable (_ = _))

theorem IsWord.exists_letters (h : IsWord word) : ∃ v l a n, word = [v, l, a, n] ∧ v.toLower = 'v' := by
  obtain ⟨v, _, rfl, hv, h⟩ := List.map_eq_cons_iff.1 h
  obtain ⟨l, _, rfl, -, h⟩ := List.map_eq_cons_iff.1 h
  obtain ⟨a, _, rfl, -, h⟩ := List.map_eq_cons_iff.1 h
  obtain ⟨n, _, rfl, -, h⟩ := List.map_eq_cons_iff.1 h
  rw [List.map_eq_nil_iff.1 h]
  exact ⟨v, l, a, n, rfl, hv⟩

theorem withoutWord_append (h : IsWord word) (rest : List Char) : withoutWord (word ++ rest) = rest := by
  obtain ⟨v, l, a, n, rfl, -⟩ := h.exists_letters
  exact if_pos (beq_iff_eq.2 h)

/-- The word is left out if a text starts with it, and nothing is left out otherwise. -/
theorem withoutWord_cases (cs : List Char) : (∃ word, IsWord word ∧ cs = word ++ withoutWord cs) ∨
    (∀ word rest, IsWord word → cs ≠ word ++ rest) ∧ withoutWord cs = cs := by
  by_cases h : ∃ word rest, IsWord word ∧ cs = word ++ rest
  · obtain ⟨word, rest, hword, rfl⟩ := h
    exact .inl ⟨word, hword, by rw [withoutWord_append hword]⟩
  · refine .inr ⟨fun word rest hword heq => h ⟨word, rest, hword, heq⟩, ?_⟩
    unfold withoutWord
    split
    · next v l a n rest =>
      exact if_neg fun hword => h ⟨[v, l, a, n], rest, beq_iff_eq.1 hword, rfl⟩
    · rfl

/-! ## The grammar -/

/-- The text is digits that write a number, perhaps with a plus sign, perhaps behind the word. -/
def Denotes (cs : List Char) (n : Nat) : Prop :=
  ∃ word sign ds, cs = word ++ (sign ++ ds) ∧ (word = [] ∨ IsWord word) ∧ (sign = [] ∨ sign = ['+']) ∧
    ds ≠ [] ∧ (∀ d ∈ ds, d.isDigit = true) ∧ numberOf ds = n

theorem toLower_ne_of_isDigit {c : Char} (h : c.isDigit = true) : c.toLower ≠ 'v' := by
  have hall : ∀ n < 58, (Char.ofNat n).toLower ≠ 'v' := by decide
  simp only [Char.isDigit, Bool.and_eq_true, decide_eq_true_eq, UInt32.le_iff_toNat_le] at h
  have hc := hall c.toNat (Nat.lt_succ_of_le h.2)
  rwa [Char.ofNat_toNat] at hc

/-- No number starts with the word. -/
theorem withoutWord_number {sign ds : List Char} (hsign : sign = [] ∨ sign = ['+'])
    (hds : ∀ d ∈ ds, d.isDigit = true) : withoutWord (sign ++ ds) = sign ++ ds := by
  rcases withoutWord_cases (sign ++ ds) with ⟨word, hword, hcs⟩ | ⟨-, h⟩
  · obtain ⟨v, l, a, n, rfl, hv⟩ := hword.exists_letters
    have hhead : (sign ++ ds).head? = some v := by
      rw [hcs]
      rfl
    rcases hsign with rfl | rfl
    · exact absurd hv (toLower_ne_of_isDigit (hds v (List.mem_of_head? hhead)))
    · cases hhead
      exact absurd hv (by decide)
  · exact h

theorem denotes_iff :
    Denotes cs n ↔ ∃ sign ds, withoutWord cs = sign ++ ds ∧ (sign = [] ∨ sign = ['+']) ∧ value? ds = some n := by
  simp only [value?_eq_some_iff]
  constructor
  · rintro ⟨word, sign, ds, rfl, hword, hsign, hne, hds, hn⟩
    rcases hword with rfl | hword
    · have hnumber : withoutWord (sign ++ ds) = sign ++ ds := withoutWord_number hsign hds
      exact ⟨sign, ds, hnumber, hsign, hne, hds, hn⟩
    · exact ⟨sign, ds, withoutWord_append hword _, hsign, hne, hds, hn⟩
  · rintro ⟨sign, ds, hcs, hsign, hnumber⟩
    rcases withoutWord_cases cs with ⟨word, hword, h⟩ | ⟨-, h⟩
    · exact ⟨word, sign, ds, by rw [h, hcs], .inr hword, hsign, hnumber⟩
    · exact ⟨[], sign, ds, h.symm.trans hcs, .inl rfl, hsign, hnumber⟩

theorem readUpTo_withoutWord {limit : Nat} :
    readUpTo limit (withoutWord cs) = some n ↔ Denotes cs n ∧ n ≤ limit := by
  rw [readUpTo_eq_some_iff, denotes_iff]

theorem parse_of_denotes (h : Denotes cs n) (hn : n ≤ shortLimit) : parse cs = ofNumber n := by
  rw [parse, readUpTo_withoutWord.2 ⟨h, hn⟩]

theorem parse_of_not_denotes (h : ∀ n, Denotes cs n → shortLimit < n) : parse cs = .error (.vlan 0) := by
  rw [parse]
  split
  · next n hn =>
    obtain ⟨hdenotes, hle⟩ := readUpTo_withoutWord.1 hn
    exact absurd (h n hdenotes) (Nat.not_lt.2 hle)
  · rfl

/-- The texts of a VLAN. -/
theorem parse_eq_ok_iff {v : VlanId} : parse cs = .ok v ↔ Denotes cs v.number := by
  constructor
  · intro h
    rw [parse] at h
    split at h
    · next n hn =>
      unfold ofNumber at h
      split at h
      · cases h
        exact (readUpTo_withoutWord.1 hn).1
      · cases h
    · cases h
  · intro h
    have hle : v.number ≤ shortLimit := Nat.le_trans v.le_max (by decide)
    rw [parse_of_denotes h hle, ofNumber_number]

/-! ## Lower case -/

theorem toLower_of_le {c : Char} (h : 128 ≤ c.toNat) : c.toLower = c := by
  have hcapital : ¬ c.val ≤ 'Z'.val := by
    rw [UInt32.le_iff_toNat_le]
    exact Nat.not_le.2 (Nat.lt_of_lt_of_le (by decide) h)
  exact dif_neg fun hc => hcapital hc.2

theorem eq_toNat_of_ofNat {n : Nat} {c : Char} (h : Char.ofNat n = c) (hc : c.toNat ≠ 0) : n = c.toNat := by
  by_cases hn : n.isValidChar
  · have hchar : Char.ofNat n = Char.ofNatAux n hn := dif_pos hn
    rw [← h, hchar]
    rfl
  · have hchar : Char.ofNat n = Char.ofNat 0 := dif_neg hn
    rw [← h, hchar] at hc
    exact absurd rfl hc

theorem forall_letters {P : Char → Prop} : (∀ d ∈ "vlan".toList, P d) ↔ P 'v' ∧ P 'l' ∧ P 'a' ∧ P 'n' := by simp

/-- Only letters of ASCII have a letter of the word as their small letter. -/
theorem smallLetter_eq_iff {c d : Char} (hd : d ∈ "vlan".toList) : smallLetter c = d ↔ c.toLower = d := by
  have hletters : ∀ d ∈ "vlan".toList, d.toNat ≠ 0 ∧ d.toNat < 128 := forall_letters.2 (by decide)
  have htable : ∀ d ∈ "vlan".toList, ∀ r ∈ wideCapitals,
      r.small + (r.last - r.first) < d.toNat ∨ d.toNat < r.small :=
    forall_letters.2 (by decide +kernel)
  by_cases hc : c.toNat < 128
  · rw [smallLetter, if_pos hc]
  have hne : c ≠ d := fun h => hc (h ▸ (hletters d hd).2)
  rw [toLower_of_le (Nat.not_lt.1 hc), smallLetter, if_neg hc]
  split
  · next r hr =>
    have hrange := List.find?_some hr
    simp only [Bool.and_eq_true, decide_eq_true_eq] at hrange
    refine ⟨fun h => ?_, fun h => absurd h hne⟩
    have hsmall := eq_toNat_of_ofNat h (hletters d hd).1
    have hrow := htable d hd r (List.mem_of_find?_eq_some hr)
    omega
  · rfl

/-- A letter of the word comes from one character, the letters with a rule of their own included. -/
theorem cons_prefix_lowercaseAfter_iff {before ds : List Char} {c d : Char} (hd : d ∈ "vlan".toList) :
    d :: ds <+: lowercaseAfter before (c :: cs) ↔ c.toLower = d ∧ ds <+: lowercaseAfter (c :: before) cs := by
  have hrules : ∀ d ∈ "vlan".toList, ('Σ' ≠ d ∧ 'ς' ≠ d ∧ 'σ' ≠ d) ∧ 'İ' ≠ d ∧ 'i' ≠ d := forall_letters.2 (by decide)
  obtain ⟨⟨hcapital, hfinal, hsmall⟩, hdotted, hplain⟩ := hrules d hd
  rw [lowercaseAfter]
  by_cases hc : c = 'Σ'
  · rw [if_pos (beq_iff_eq.2 hc), hc]
    split
    · simp [hfinal.symm, hcapital]
    · simp [hsmall.symm, hcapital]
  by_cases hc' : c = 'İ'
  · rw [if_neg (by simpa using hc), if_pos (beq_iff_eq.2 hc'), hc']
    simp [hplain.symm, hdotted]
  · rw [if_neg (by simpa using hc), if_neg (by simpa using hc'), List.singleton_append, List.cons_prefix_cons, eq_comm,
      smallLetter_eq_iff hd]

/-- The lower case of a text starts with letters of the word exactly if the text does, in some letter case. -/
theorem prefix_lowercaseAfter_iff {before ds : List Char} (hds : ∀ d ∈ ds, d ∈ "vlan".toList) :
    ds <+: lowercaseAfter before cs ↔ ∃ front rest, cs = front ++ rest ∧ front.map Char.toLower = ds := by
  induction ds generalizing before cs with
  | nil => exact ⟨fun _ => ⟨[], cs, rfl, rfl⟩, fun _ => List.nil_prefix⟩
  | cons d ds ih =>
    obtain ⟨hd, hds⟩ := List.forall_mem_cons.1 hds
    cases cs with
    | nil => simp [lowercaseAfter]
    | cons c cs =>
      rw [cons_prefix_lowercaseAfter_iff hd, ih hds]
      constructor
      · rintro ⟨hc, front, rest, rfl, rfl⟩
        exact ⟨c :: front, rest, rfl, by rw [List.map_cons, hc]⟩
      · rintro ⟨front, rest, hcs, hfront⟩
        obtain ⟨_, tail, rfl, hc, htail⟩ := List.map_eq_cons_iff.1 hfront
        obtain ⟨rfl, rfl⟩ := List.cons.inj hcs
        exact ⟨hc, tail, rest, rfl, htail⟩

/-- A text starts with the word exactly if its lower case starts with `vlan`. -/
theorem startsWithWord_iff {s : String} :
    "vlan".toList <+: (lowercase s).toList ↔ ∃ word rest, s.toList = word ++ rest ∧ IsWord word := by
  have hlower : (lowercase s).toList = lowercaseAfter [] s.toList := String.toList_ofList
  rw [hlower]
  exact prefix_lowercaseAfter_iff fun d hd => hd

theorem length_encode_of_ascii (h : ∀ c ∈ cs, c.toNat < 128) : (encode (String.ofList cs)).length = cs.length := by
  rw [encode_ofList]
  induction cs with
  | nil => rfl
  | cons c cs ih =>
    obtain ⟨hc, hcs⟩ := List.forall_mem_cons.1 h
    rw [List.flatMap_cons, List.length_append, ih hcs, utf8EncodeChar_eq, if_pos (Nat.le_of_lt_succ hc), Nat.add_comm]
    rfl

/-- The word has a byte for each of its letters. -/
theorem length_encode_word (h : IsWord word) : (encode (String.ofList word)).length = 4 := by
  have hletters : ∀ d ∈ "vlan".toList, d.toNat < 128 := forall_letters.2 (by decide)
  rw [length_encode_of_ascii fun c hc => ?_]
  · exact (List.length_map _).symm.trans (congrArg List.length h)
  · by_contra hlarge
    have hmem : c.toLower ∈ "vlan".toList := h ▸ List.mem_map_of_mem hc
    rw [toLower_of_le (Nat.not_lt.1 hlarge)] at hmem
    exact hlarge (hletters c hmem)

/-! ## Device names -/

/-- The cut of a device name is at its last dot. -/
theorem splitDevice_eq_some_iff {name device : String} {r : Except ValueError VlanId} :
    splitDevice name = some (device, r) ↔
      ∃ suffix, name = device ++ String.ofList ('.' :: suffix) ∧ '.' ∉ suffix ∧ parse suffix = r := by
  rw [splitDevice, Option.map_eq_some_iff]
  constructor
  · rintro ⟨⟨front, suffix⟩, hcut, heq⟩
    obtain ⟨rfl, hr⟩ := Prod.mk.inj heq
    obtain ⟨hname, hdot⟩ := eq_append_of_splitLast hcut
    refine ⟨suffix, ?_, hdot, hr⟩
    rw [← String.ofList_append, ← hname, String.ofList_toList]
  · rintro ⟨suffix, rfl, hdot, hr⟩
    refine ⟨(device.toList, suffix), ?_, ?_⟩
    · rw [String.toList_append, String.toList_ofList, splitLast_append hdot]
    · dsimp only
      rw [hr, String.ofList_toList]

theorem splitDevice_eq_none_iff {name : String} : splitDevice name = none ↔ '.' ∉ name.toList := by
  rw [splitDevice, Option.map_eq_none_iff, splitLast_eq_none_iff]

theorem denotes_toText (v : VlanId) : Denotes v.toText.toList v.number := by
  have hnumber := value?_eq_some_iff.1 (value?_digits v.number)
  rw [toText, decimal, String.toList_ofList]
  exact ⟨[], [], digits v.number, rfl, .inl rfl, .inl rfl, hnumber⟩

/-- A text is read as a VLAN exactly if it is a number from 1 to 4094, perhaps with a plus sign and behind the word `vlan` in
any letter case. Other numbers of 16 bits are named when they are refused, and all else is refused as VLAN 0. The word is
looked for in the lower case of the text and makes up its first four bytes. A device name is cut at its last dot, so the
VLAN behind a device reads back. -/
theorem read_by_one_grammar :
    ((∀ cs v, parse cs = .ok v ↔ Denotes cs v.number) ∧
      (∀ cs n, Denotes cs n → n ≤ shortLimit → ¬ (1 ≤ n ∧ n ≤ 4094) → parse cs = .error (.vlan n)) ∧
      (∀ cs, (∀ n, Denotes cs n → shortLimit < n) → parse cs = .error (.vlan 0))) ∧
    (∀ s : String, ("vlan".toList <+: (lowercase s).toList →
        ∃ word, s.toList = word ++ withoutWord s.toList ∧ (encode (String.ofList word)).length = 4) ∧
      (¬ "vlan".toList <+: (lowercase s).toList → withoutWord s.toList = s.toList)) ∧
    (∀ name, splitDevice name = none ↔ '.' ∉ name.toList) ∧
    (∀ name device r, splitDevice name = some (device, r) ↔
      ∃ suffix, name = device ++ String.ofList ('.' :: suffix) ∧ '.' ∉ suffix ∧ parse suffix = r) ∧
    ∀ (device : String) (v : VlanId), splitDevice (device ++ "." ++ v.toText) = some (device, .ok v) := by
  refine ⟨⟨fun cs v => parse_eq_ok_iff, fun cs n h hn hrange => ?_, fun cs => parse_of_not_denotes⟩,
    fun s => ⟨fun h => ?_, fun h => ?_⟩, fun name => splitDevice_eq_none_iff, fun name device r => splitDevice_eq_some_iff,
    fun device v => ?_⟩
  · rw [parse_of_denotes h hn, ofNumber, dif_neg hrange]
  · obtain ⟨word, rest, hs, hword⟩ := startsWithWord_iff.1 h
    exact ⟨word, by rw [hs, withoutWord_append hword], length_encode_word hword⟩
  · refine (withoutWord_cases s.toList).elim (fun ⟨word, hword, hs⟩ => ?_) And.right
    exact absurd (startsWithWord_iff.2 ⟨word, _, hs, hword⟩) h
  · refine splitDevice_eq_some_iff.2 ⟨v.toText.toList, ?_, fun hdot => ?_, parse_eq_ok_iff.2 (denotes_toText v)⟩
    · have hdot : "." ++ v.toText = String.ofList ('.' :: v.toText.toList) := by
        rw [String.ofList_cons, String.ofList_toList]
        rfl
      rw [String.append_assoc, hdot]
    · rw [toText, decimal, String.toList_ofList] at hdot
      exact absurd hdot (notMem_digits rfl v.number)

/-- A VLAN in a mixed letter case, a number beyond the range, a wide letter that is none of the word, and a device name with
two dots. -/
theorem read_by_one_grammar_spellings :
    let v : VlanId := ⟨20, by decide, by decide⟩
    (Denotes "vLaN+0020".toList v.number ∧ parse "vLaN+0020".toList = .ok v) ∧
      ((Denotes "VLAN4095".toList 4095 ∧ ¬ (1 ≤ 4095 ∧ 4095 ≤ 4094)) ∧ parse "VLAN4095".toList = .error (.vlan 4095)) ∧
      ((∀ n, Denotes "\uff36lan20".toList n → shortLimit < n) ∧ parse "\uff36lan20".toList = .error (.vlan 0)) ∧
      ("vlan".toList <+: (lowercase "vLaN+0020").toList ∧
        ∃ word, "vLaN+0020".toList = word ++ withoutWord "vLaN+0020".toList ∧ (encode (String.ofList word)).length = 4) ∧
      splitDevice ("eth1.5" ++ "." ++ v.toText) = some ("eth1.5", .ok v) := by
  intro v
  obtain ⟨⟨hok, hnamed, hother⟩, hword, -, -, hprinted⟩ := read_by_one_grammar
  have hmixed : Denotes "vLaN+0020".toList v.number :=
    ⟨"vLaN".toList, ['+'], "0020".toList, rfl, .inr (by decide), .inr rfl, by decide, List.all_eq_true.1 rfl, by decide⟩
  have hlarge : Denotes "VLAN4095".toList 4095 :=
    ⟨"VLAN".toList, [], "4095".toList, rfl, .inr (by decide), .inl rfl, by decide, List.all_eq_true.1 rfl, by decide⟩
  have hwide : ∀ n, Denotes "\uff36lan20".toList n → shortLimit < n := fun n h =>
    nomatch readUpTo_withoutWord.2 ⟨h, Nat.le_refl n⟩
  have hlower : "vlan".toList <+: (lowercase "vLaN+0020").toList := by decide
  exact ⟨⟨hmixed, (hok _ v).2 hmixed⟩, ⟨⟨hlarge, by decide⟩, hnamed _ _ hlarge (by decide) (by decide)⟩,
    ⟨hwide, hother _ hwide⟩, ⟨hlower, (hword _).1 hlower⟩, hprinted _ v⟩

end VlanId

end SwitchFabric
