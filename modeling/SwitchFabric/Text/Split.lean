/-!
# Splitting at a character

`splitLast` cuts a text at the last occurrence of a character and `pieces` at every one.

`splitLast_append` says that the cut is at the last one, `splitLast_eq_none_iff` when there is none.
-/

namespace SwitchFabric.Text

/-- What stands before and after the last `sep`. -/
def splitLast (sep : Char) : List Char → Option (List Char × List Char)
  | [] => none
  | c :: cs =>
    match splitLast sep cs with
    | some (a, b) => some (c :: a, b)
    | none => if c = sep then some ([], cs) else none

/-- The pieces between the occurrences of `sep`, one more than there are. -/
def pieces (sep : Char) : List Char → List (List Char)
  | [] => [[]]
  | c :: cs =>
    if c = sep then [] :: pieces sep cs
    else
      match pieces sep cs with
      | [] => [[c]]
      | p :: ps => (c :: p) :: ps

theorem splitLast_eq_none_iff {sep : Char} {cs : List Char} :
    splitLast sep cs = none ↔ sep ∉ cs := by
  induction cs with
  | nil => simp [splitLast]
  | cons c cs ih =>
    rw [splitLast]
    cases hs : splitLast sep cs with
    | some r => simp [show sep ∈ cs by simpa [hs] using (not_congr ih).1]
    | none =>
      have := ih.1 hs
      by_cases h : c = sep
      · simp [h]
      · simp [h, this, Ne.symm h]

theorem splitLast_append {sep : Char} {a b : List Char} (h : sep ∉ b) :
    splitLast sep (a ++ sep :: b) = some (a, b) := by
  induction a with
  | nil => simp [splitLast, splitLast_eq_none_iff.2 h]
  | cons c a ih => simp [splitLast, ih]

/-- The cut is at the last `sep`. -/
theorem eq_append_of_splitLast {sep : Char} {cs a b : List Char}
    (h : splitLast sep cs = some (a, b)) : cs = a ++ sep :: b ∧ sep ∉ b := by
  induction cs generalizing a with
  | nil => simp [splitLast] at h
  | cons c cs ih =>
    rw [splitLast] at h
    cases hs : splitLast sep cs with
    | some r =>
      rw [hs] at h
      simp only [Option.some.injEq, Prod.mk.injEq] at h
      obtain ⟨rfl, rfl⟩ := h
      obtain ⟨hcs, hb⟩ := ih hs
      exact ⟨by rw [hcs]; rfl, hb⟩
    | none =>
      rw [hs] at h
      by_cases hc : c = sep
      · simp only [hc, if_true, Option.some.injEq, Prod.mk.injEq] at h
        obtain ⟨rfl, rfl⟩ := h
        exact ⟨by simp [hc], splitLast_eq_none_iff.1 hs⟩
      · simp [hc] at h

end SwitchFabric.Text
