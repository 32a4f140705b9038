import Mathlib.Data.Nat.Digits.Defs
import SwitchFabric.Text.Decimal

/-!
# Texts that are numbers

A run of digits is read as the number that it writes (`value?_eq_some_iff`), with any zeros in front. A number up to a limit
may have a plus sign (`readUpTo_eq_some_iff`), and reads back from its digits (`readUpTo_digits`).
-/

namespace SwitchFabric.Text

/-- The number that digits write in decimal, the first digit being the highest. -/
def numberOf (ds : List Char) : Nat := Nat.ofDigits 10 (ds.reverse.map digitValue)

theorem valueFrom?_eq_some_iff {ds : List Char} {m n : Nat} :
    valueFrom? m ds = some n ↔ (∀ d ∈ ds, d.isDigit = true) ∧ m * 10 ^ ds.length + numberOf ds = n := by
  induction ds generalizing m with
  | nil => simp [valueFrom?, numberOf]
  | cons d ds ih =>
    have hnumber : numberOf (d :: ds) = digitValue d * 10 ^ ds.length + numberOf ds := by
      rw [numberOf, List.reverse_cons, List.map_append, Nat.ofDigits_append, List.map_singleton, Nat.ofDigits_singleton,
        List.length_map, List.length_reverse, numberOf, Nat.mul_comm, Nat.add_comm]
    rw [valueFrom?, List.forall_mem_cons]
    split
    · next hd =>
      rw [ih, hnumber, List.length_cons, Nat.pow_succ, Nat.add_mul]
      simp only [hd, true_and]
      rw [Nat.mul_assoc, Nat.mul_comm 10, Nat.add_assoc]
    · next hd => simp [hd]

/-- A run of digits has the value that it writes. -/
theorem value?_eq_some_iff {ds : List Char} {n : Nat} :
    value? ds = some n ↔ ds ≠ [] ∧ (∀ d ∈ ds, d.isDigit = true) ∧ numberOf ds = n := by
  cases ds with
  | nil => simp [value?]
  | cons d ds =>
    rw [value?, valueFrom?_eq_some_iff, Nat.zero_mul, Nat.zero_add]
    simp

/-- A number up to a limit is written in digits, perhaps with a plus sign. -/
theorem readUpTo_eq_some_iff {limit n : Nat} {cs : List Char} :
    readUpTo limit cs = some n ↔
      (∃ sign ds, cs = sign ++ ds ∧ (sign = [] ∨ sign = ['+']) ∧ value? ds = some n) ∧ n ≤ limit := by
  have hplus {rest : List Char} : value? ('+' :: rest) = none := rfl
  unfold readUpTo
  dsimp only
  rw [Option.filter_eq_some_iff, decide_eq_true_eq]
  refine and_congr_left fun _ => ?_
  split
  · next rest =>
    constructor
    · exact fun h => ⟨['+'], rest, rfl, .inr rfl, h⟩
    · rintro ⟨_, ds, hcs, rfl | rfl, h⟩
      · rw [List.nil_append] at hcs
        rw [← hcs, hplus] at h
        cases h
      · rwa [List.cons.inj hcs |>.2]
  · next hnot =>
    constructor
    · exact fun h => ⟨[], cs, rfl, .inl rfl, h⟩
    · rintro ⟨_, ds, hcs, rfl | rfl, h⟩
      · rwa [hcs]
      · exact absurd hcs (hnot ds)

theorem readUpTo_digits {n limit : Nat} (h : n ≤ limit) : readUpTo limit (digits n) = some n :=
  readUpTo_eq_some_iff.2 ⟨⟨[], digits n, rfl, .inl rfl, value?_digits n⟩, h⟩

/-- Digits write one number only. -/
theorem eq_of_readUpTo_digits {n m limit : Nat} (h : readUpTo limit (digits n) = some m) : n = m := by
  obtain ⟨⟨sign, ds, hdigits, rfl | rfl, hm⟩, -⟩ := readUpTo_eq_some_iff.1 h
  · rw [List.nil_append] at hdigits
    rw [← hdigits, value?_digits] at hm
    exact Option.some.inj hm
  · have hplus : '+' ∈ digits n := hdigits ▸ List.mem_cons_self
    exact absurd hplus (notMem_digits rfl n)

end SwitchFabric.Text
