import SwitchFabric.Proofs.Text.Search

/-!
# Lines in columns

A line of a table has cells with blanks between them (`Spaced`). Where the cells are words, they are the words of the
line (`words_of_spaced`). A number is cut out of a cell by dropping what has no digits behind it
(`dropEndWhile_digits`).
-/

namespace SwitchFabric.Text

/-- The line has the cells in order, with blanks between them and perhaps behind the last. -/
inductive Spaced : List (List Char) → List Char → Prop where
  | last (cell : List Char) (n : Nat) : Spaced [cell] (cell ++ List.replicate n ' ')
  | cons (cell : List Char) (n : Nat) {cells : List (List Char)} {line : List Char} : Spaced cells line →
    Spaced (cell :: cells) (cell ++ (List.replicate (n + 1) ' ' ++ line))

variable {cells : List (List Char)} {line word cs : List Char}

/-- The characters of a line stand in its cells, but for the blanks. -/
theorem Spaced.forall_mem (h : Spaced cells line) {P : Char → Prop} (hblank : P ' ')
    (hcells : ∀ cell ∈ cells, ∀ c ∈ cell, P c) : ∀ c ∈ line, P c := by
  have hblanks (n : Nat) : ∀ c ∈ List.replicate n ' ', P c := fun c hc => by rwa [List.eq_of_mem_replicate hc]
  induction h with
  | last cell n => exact List.forall_mem_append.2 ⟨hcells cell List.mem_cons_self, hblanks n⟩
  | cons cell n _ ih =>
    obtain ⟨hcell, hcells⟩ := List.forall_mem_cons.1 hcells
    exact List.forall_mem_append.2 ⟨hcell, List.forall_mem_append.2 ⟨hblanks (n + 1), ih hcells⟩⟩

/-- A line starts with its first cell. -/
theorem Spaced.exists_eq_append {cell : List Char} (h : Spaced (cell :: cells) line) : ∃ tail, line = cell ++ tail := by
  cases h <;> exact ⟨_, rfl⟩

/-! ## Words -/

theorem wordsAfter_append (hword : Solid word) (before cs : List Char) :
    wordsAfter before (word ++ cs) = wordsAfter (word.reverse ++ before) cs := by
  induction word generalizing before with
  | nil => rfl
  | cons c word ih =>
    obtain ⟨hc, hword⟩ := List.forall_mem_cons.1 hword
    rw [List.cons_append, wordsAfter, hc, if_neg Bool.false_ne_true, ih hword, List.reverse_cons, List.append_assoc]
    rfl

theorem wordsAfter_blanks (n : Nat) : wordsAfter [] (List.replicate n ' ' ++ cs) = wordsAfter [] cs := by
  induction n with
  | zero => rfl
  | succ n ih => simpa [List.replicate_succ, wordsAfter, show isBlank ' ' = true by decide] using ih

/-- A word that blanks are behind is the first one. -/
theorem words_append_blanks (hne : word ≠ []) (hword : Solid word) (n : Nat) (cs : List Char) :
    words (word ++ (List.replicate (n + 1) ' ' ++ cs)) = word :: words cs := by
  have hblank : isBlank ' ' = true := by decide
  have hempty : (word.reverse ++ []).isEmpty = false := by simpa using hne
  rw [words, wordsAfter_append hword, List.replicate_succ, List.cons_append, wordsAfter, if_pos hblank, hempty,
    if_neg Bool.false_ne_true, wordsAfter_blanks, List.append_nil, List.reverse_reverse, words]

theorem words_of_solid (hne : word ≠ []) (hword : Solid word) : words word = [word] := by
  have hwords := wordsAfter_append hword [] []
  rw [List.append_nil, List.append_nil] at hwords
  rw [words, hwords, wordsAfter, if_neg (by simpa using hne), List.reverse_reverse]

/-- Cells that are words are the words of their line. -/
theorem words_of_spaced (h : Spaced cells line) (hcells : ∀ cell ∈ cells, cell ≠ [] ∧ Solid cell) :
    words line = cells := by
  induction h with
  | last cell n =>
    obtain ⟨hne, hsolid⟩ := hcells cell List.mem_cons_self
    cases n with
    | zero => rw [List.replicate_zero, List.append_nil, words_of_solid hne hsolid]
    | succ n =>
      have hwords := words_append_blanks hne hsolid n []
      rwa [List.append_nil] at hwords
  | cons cell n _ ih =>
    obtain ⟨⟨hne, hsolid⟩, hcells⟩ := List.forall_mem_cons.1 hcells
    rw [words_append_blanks hne hsolid, ih hcells]

/-! ## Numbers -/

/-- Behind a number, what has no digits is cut off. -/
theorem dropEndWhile_digits (n : Nat) (hcs : ∀ c ∈ cs, c.isDigit = false) :
    dropEndWhile (!·.isDigit) (digits n ++ cs) = digits n := by
  rw [dropEndWhile_append fun c hc => by rw [hcs c hc]; rfl]
  refine dropEndWhile_eq_self fun c hc => ?_
  simp [isDigit_of_mem_digits (List.mem_of_getLast? hc)]

end SwitchFabric.Text
