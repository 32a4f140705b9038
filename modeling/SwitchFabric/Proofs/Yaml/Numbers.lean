import Mathlib.Algebra.Group.Int.Defs
import SwitchFabric.Proofs.Address
import SwitchFabric.Yaml.Resolve

/-!
# Numbers in plain scalars

A number in decimal is read as itself where a number is expected (`unsigned?_digits`), and where anything may stand it is
taken for a number and not for a text, a truth value or null (`resolve_toString`).
-/

namespace SwitchFabric.Yaml

open Text (digits)

/-- In base ten a number is read digit by digit. -/
theorem inBase?_ten (cs : List Char) : inBase? 10 cs = Text.value? cs := by
  have hdigit (c : Char) : digitOf? 10 c = if c.isDigit then some (Text.digitValue c) else none := by
    rw [digitOf?]
    by_cases hd : c.isDigit = true
    · have hle : c.toNat ≤ 57 := by
        simp only [Char.isDigit, Bool.and_eq_true, decide_eq_true_eq, UInt32.le_iff_toNat_le] at hd
        exact hd.2
      rw [if_pos hd, if_pos hd, if_pos (by omega), Text.digitValue]
    · have hlower : 'a' ≤ c → 97 ≤ c.toNat := fun h => h
      have hupper : 'A' ≤ c → 65 ≤ c.toNat := fun h => h
      rw [if_neg hd, if_neg hd, if_neg]
      split
      · next h =>
        have := hlower (by simpa using (Bool.and_eq_true_iff.1 h).1)
        omega
      · split
        · next h =>
          have := hupper (by simpa using (Bool.and_eq_true_iff.1 h).1)
          omega
        · omega
  have hfold (n : Nat) (cs : List Char) :
      cs.foldlM (fun n c => (digitOf? 10 c).map (n * 10 + ·)) n = Text.valueFrom? n cs := by
    induction cs generalizing n with
    | nil => rfl
    | cons c cs ih =>
      rw [List.foldlM_cons, hdigit, Text.valueFrom?]
      split
      · exact ih _
      · rfl
  cases cs with
  | nil => rfl
  | cons c cs => exact hfold 0 (c :: cs)

/-! ## Decimal digits -/

/-- Digits start with a digit, and with a zero only if it is alone. -/
theorem exists_digits (n : Nat) :
    ∃ c cs, digits n = c :: cs ∧ c.isDigit = true ∧ (c = '0' → cs = []) := by
  cases h : digits n with
  | nil => exact absurd h (Text.digits_ne_nil n)
  | cons c cs =>
    refine ⟨c, cs, rfl, Text.isDigit_of_mem_digits (by rw [h]; exact List.mem_cons_self), ?_⟩
    rintro rfl
    have hzero : n = 0 := Text.eq_zero_of_head?_toDigits (b := 10) (by omega) (congrArg List.head? h)
    rw [hzero] at h
    exact (List.cons.inj h).2.symm

theorem basePart_digits (n : Nat) : basePart (digits n) = none := by
  obtain ⟨c, cs, h, -, hzero⟩ := exists_digits n
  have hstart {d : Char} {ds : List Char} (heq : digits n = '0' :: d :: ds) : False := by
    obtain ⟨hc, hcs⟩ := List.cons.inj (h.symm.trans heq)
    rw [hzero hc] at hcs
    cases hcs
  unfold basePart
  split
  · next heq => exact (hstart heq).elim
  · next heq => exact (hstart heq).elim
  · next heq => exact (hstart heq).elim
  · rfl

theorem isZeroPadded_digits (n : Nat) : isZeroPadded (digits n) = false := by
  obtain ⟨c, cs, h, hdigit, hzero⟩ := exists_digits n
  have hsign : startsSigned (c :: cs) = false := by
    rw [startsSigned, Bool.or_eq_false_iff, beq_eq_false_iff_ne, beq_eq_false_iff_ne]
    constructor <;>
      · rintro rfl
        cases hdigit
  rw [h, isZeroPadded, hsign, if_neg Bool.false_ne_true]
  split
  · next heq =>
    cases heq
    cases hzero rfl
  · rfl

theorem unsigned?_digits {n limit : Nat} (h : n ≤ limit) : unsigned? limit (digits n) = some n := by
  obtain ⟨c, cs, hcs, hdigit, -⟩ := exists_digits n
  have hplus : c ≠ '+' := by
    rintro rfl
    cases hdigit
  have hvalue : inBase? 10 (c :: cs) = some n := by rw [← hcs, inBase?_ten, Text.value?_digits]
  have hpart : basePart (c :: cs) = none := by rw [← hcs, basePart_digits]
  have hpadded : isZeroPadded (c :: cs) = false := by rw [← hcs, isZeroPadded_digits]
  rw [hcs, unsigned?]
  · simp [hvalue, hpart, hpadded, h]
  · exact fun rest heq => hplus (List.cons.inj heq).1

theorem negative?_digits {n limit : Nat} (h : n ≤ limit) : negative? limit ('-' :: digits n) = some n := by
  rw [negative?, basePart_digits, isZeroPadded_digits, inBase?_ten, Text.value?_digits]
  simp [h]

theorem unsigned?_minus (limit : Nat) (cs : List Char) : unsigned? limit ('-' :: cs) = none := by
  have hpart : basePart ('-' :: cs) = none := rfl
  have hvalue : Text.value? ('-' :: cs) = none := rfl
  simp [unsigned?, hpart, inBase?_ten, hvalue]

/-! ## Whole numbers -/

theorem toList_toString (n : Int) :
    (toString n).toList = if 0 ≤ n then digits n.toNat else '-' :: digits (-n).toNat := by
  rw [Int.toString_eq_repr, Int.repr_eq_if]
  split
  · exact Nat.toList_repr
  · rw [String.toList_append, Nat.toList_repr]
    rfl

/-- The first character of a number is a digit or a minus sign. -/
theorem exists_toString (n : Int) : ∃ c cs, (toString n).toList = c :: cs ∧ (c.isDigit = true ∨ c = '-') := by
  rw [toList_toString]
  split
  · obtain ⟨c, cs, h, hdigit, -⟩ := exists_digits n.toNat
    exact ⟨c, cs, h, .inl hdigit⟩
  · exact ⟨'-', _, rfl, .inr rfl⟩

/-- A number is none of the words that start otherwise. -/
theorem contains_toString (n : Int) {words : List String}
    (h : (words.all fun word => word.toList.head?.all fun c => !c.isDigit && c != '-') = true) :
    words.contains (toString n) = false := by
  rw [List.contains_eq_mem, decide_eq_false_iff_not]
  intro hmem
  obtain ⟨c, cs, hcs, hc⟩ := exists_toString n
  have hword := List.all_eq_true.1 h _ hmem
  rw [hcs, List.head?_cons, Option.all_some, Bool.and_eq_true_iff, Bool.not_eq_true', bne_iff_ne] at hword
  rcases hc with hc | hc
  · rw [hword.1] at hc
    cases hc
  · exact hword.2 hc

theorem isNull_toString (n : Int) : isNull (toString n) = false := contains_toString n (by decide)

theorem bool?_toString (n : Int) : bool? (toString n) = none := by
  rw [bool?, contains_toString n (by decide), contains_toString n (by decide)]
  rfl

theorem whole?_toString {n : Int} (hlow : -(2 ^ 63) ≤ n) (hhigh : n < 2 ^ 64) :
    whole? (toString n).toList = some (.fits n) := by
  rw [toList_toString]
  split
  · next h =>
    have hlimit : n.toNat ≤ Nat.pow 2 64 - 1 := by
      show n.toNat ≤ 2 ^ 64 - 1
      omega
    rw [whole?, unsigned?_digits hlimit]
    exact congrArg (fun m => some (Whole.fits m)) (Int.toNat_of_nonneg h)
  · next h =>
    have hlimit : (-n).toNat ≤ Nat.pow 2 63 := by
      show (-n).toNat ≤ 2 ^ 63
      omega
    rw [whole?, unsigned?_minus, negative?_digits hlimit]
    simp only [Option.some.injEq, Whole.fits.injEq]
    omega

/-- A number is taken for itself. -/
theorem resolve_toString {n : Int} (hlow : -(2 ^ 63) ≤ n) (hhigh : n < 2 ^ 64) :
    resolve (toString n) = .whole (.fits n) := by
  obtain ⟨c, cs, hcs, -⟩ := exists_toString n
  have hempty : (toString n).toList.isEmpty = false := by rw [hcs]; rfl
  simp only [resolve, hempty, isNull_toString, bool?_toString, whole?_toString hlow hhigh]
  rfl

end SwitchFabric.Yaml
