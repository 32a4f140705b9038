/-!
# Whole numbers as text

`digits` writes a number in decimal, `value?` reads a run of ASCII digits with any number of leading
zeros, and `readUpTo` reads a number below a limit with an optional plus sign.

What is written reads back (`value?_digits`), and only ASCII digits are written (`isDigit_of_mem_digits`).
-/

namespace SwitchFabric.Text

/-- The decimal digits of `n`, without leading zeros. -/
def digits (n : Nat) : List Char := Nat.toDigits 10 n

/-- The number written in decimal. -/
def decimal (n : Nat) : String := String.ofList (digits n)

/-- The value of an ASCII digit. -/
def digitValue (c : Char) : Nat := c.toNat - 48

/-- The value of a run of ASCII digits that follows a number `n`. -/
def valueFrom? (n : Nat) : List Char → Option Nat
  | [] => some n
  | c :: cs => if c.isDigit then valueFrom? (n * 10 + digitValue c) cs else none

/-- The value of a text of ASCII digits, of which there must be one. -/
def value? : List Char → Option Nat
  | [] => none
  | c :: cs => valueFrom? 0 (c :: cs)

/-- The number that `cs` spells, with an optional plus sign, if it is at most `limit`. -/
def readUpTo (limit : Nat) (cs : List Char) : Option Nat :=
  let body := match cs with
    | '+' :: rest => rest
    | _ => cs
  (value? body).filter (· ≤ limit)

/-- The largest number of 8 bits. -/
def byteLimit : Nat := 255

/-- The largest number of 16 bits. -/
def shortLimit : Nat := 65535

/-- The largest number of 32 bits. -/
def wordLimit : Nat := 4294967295

/-! ## Reading back what was written -/

theorem valueFrom?_append (n : Nat) (xs ys : List Char) :
    valueFrom? n (xs ++ ys) = (valueFrom? n xs).bind (valueFrom? · ys) := by
  induction xs generalizing n with
  | nil => rfl
  | cons c cs ih =>
    by_cases h : c.isDigit <;> simp [valueFrom?, h, ih]

theorem digitValue_digitChar {d : Nat} (h : d < 10) :
    (Nat.digitChar d).isDigit = true ∧ digitValue (Nat.digitChar d) = d := by
  revert d; decide

theorem valueFrom?_toDigits (m n : Nat) :
    valueFrom? m (digits n) = some (m * Nat.pow 10 (digits n).length + n) := by
  induction n using Nat.strongRecOn generalizing m with
  | ind n ih =>
    by_cases h : n < 10
    · obtain ⟨hd, hv⟩ := digitValue_digitChar h
      simp [digits, Nat.toDigits_of_lt_base h, valueFrom?, hd, hv]
    · have hlt : n / 10 < n := Nat.div_lt_self (by omega) (by omega)
      obtain ⟨hd, hv⟩ := digitValue_digitChar (Nat.mod_lt n (by omega : 10 > 0))
      have hsplit : digits n = digits (n / 10) ++ [Nat.digitChar (n % 10)] :=
        Nat.toDigits_of_base_le (by omega) (by omega)
      have hpow (k : Nat) : Nat.pow 10 (k + 1) = Nat.pow 10 k * 10 := rfl
      rw [hsplit, valueFrom?_append, ih _ hlt]
      simp only [Option.bind_some, valueFrom?, hd, hv, if_true, List.length_append,
        List.length_singleton, Option.some.injEq, hpow, ← Nat.mul_assoc]
      have := Nat.div_add_mod n 10
      omega

theorem digits_ne_nil (n : Nat) : digits n ≠ [] := by
  by_cases h : n < 10
  · simp [digits, Nat.toDigits_of_lt_base h]
  · simp [digits, Nat.toDigits_of_base_le (b := 10) (by omega) (by omega : 10 ≤ n)]

/-- A number written in decimal reads back. -/
theorem value?_digits (n : Nat) : value? (digits n) = some n := by
  have h := valueFrom?_toDigits 0 n
  match hd : digits n with
  | [] => exact absurd hd (digits_ne_nil n)
  | c :: cs => rw [hd] at h; simpa [value?] using h

theorem isDigit_of_mem_digits {n : Nat} {c : Char} (h : c ∈ digits n) : c.isDigit = true :=
  Nat.isDigit_of_mem_toDigits (by omega) (by omega) h

theorem notMem_digits {c : Char} (h : c.isDigit = false) (n : Nat) : c ∉ digits n := fun hmem => by
  rw [isDigit_of_mem_digits hmem] at h
  cases h

end SwitchFabric.Text
