import Mathlib.Data.List.Basic
import SwitchFabric.Proofs.Text.Search

/-!
# Lines and lists of numbers

Lines with line feeds between them are the lines of their text, but for carriage returns at their ends and for a last line
without characters; so what is read of them is what is read of the text, if it does not depend on these
(`filterMap_lines`). Numbers with commas between them are the runs of digits of their text (`digitRuns_intercalate`).
-/

namespace SwitchFabric.Text

open Pattern

variable {cs xs ys : List Char} {ls : List (List Char)}

theorem intercalate_cons {α : Type} (separator x : List α) (xs : List (List α)) :
    separator.intercalate (x :: xs) = x ++ xs.flatMap (separator ++ ·) := by
  induction xs generalizing x with
  | nil => rw [List.intercalate_singleton, List.flatMap_nil, List.append_nil]
  | cons y ys ih => rw [List.intercalate_cons_cons, ih, List.flatMap_cons, List.append_assoc, List.append_assoc]

/-! ## Lines -/

theorem splitLines_of_notMem (h : '\n' ∉ cs) : splitLines cs = [cs] := by
  induction cs with
  | nil => rfl
  | cons c cs ih =>
    rw [List.mem_cons, not_or] at h
    rw [splitLines, if_neg (by simpa using Ne.symm h.1), ih h.2]

theorem splitLines_append (h : '\n' ∉ xs) (ys : List Char) :
    splitLines (xs ++ '\n' :: ys) = xs :: splitLines ys := by
  induction xs with
  | nil => rw [List.nil_append, splitLines, if_pos (beq_self_eq_true _)]
  | cons c xs ih =>
    rw [List.mem_cons, not_or] at h
    rw [List.cons_append, splitLines, if_neg (by simpa using Ne.symm h.1), ih h.2]

theorem splitLines_intercalate (hne : ls ≠ []) (h : ∀ l ∈ ls, '\n' ∉ l) : splitLines (['\n'].intercalate ls) = ls := by
  induction ls with
  | nil => exact absurd rfl hne
  | cons l ls ih =>
    obtain ⟨hl, hls⟩ := List.forall_mem_cons.1 h
    cases ls with
    | nil => rw [List.intercalate_singleton, splitLines_of_notMem hl]
    | cons l' ls =>
      rw [List.intercalate_cons_cons, List.append_assoc, List.singleton_append, splitLines_append hl,
        ih (List.cons_ne_nil l' ls) hls]

theorem chopReturn_of_notMem (h : '\r' ∉ cs) : chopReturn cs = cs := by
  rw [chopReturn, if_neg]
  rw [beq_iff_eq]
  exact fun hlast => h (List.mem_of_getLast? hlast)

theorem chopReturn_append (hne : ys ≠ []) (xs : List Char) : chopReturn (xs ++ ys) = xs ++ chopReturn ys := by
  rw [chopReturn, chopReturn, List.getLast?_append, List.dropLast_append_of_ne_nil hne]
  cases hlast : ys.getLast? with
  | none => exact absurd (List.getLast?_eq_none_iff.1 hlast) hne
  | some c =>
    rw [Option.some_or]
    split <;> rfl

theorem prefix_chopReturn (cs : List Char) : chopReturn cs <+: cs := by
  rw [chopReturn]
  split
  · exact List.dropLast_prefix cs
  · exact List.prefix_refl cs

/-- What is read of the lines of a text. -/
theorem filterMap_lines {α : Type} {f : List Char → Option α} (hnil : f [] = none)
    (hls : ∀ l ∈ ls, '\n' ∉ l ∧ f (chopReturn l) = f l) : (lines (['\n'].intercalate ls)).filterMap f = ls.filterMap f := by
  cases h : ls.getLast? with
  | none =>
    rw [List.getLast?_eq_none_iff.1 h]
    rfl
  | some last =>
    obtain ⟨front, rfl⟩ := List.getLast?_eq_some_iff.1 h
    have hsplit : splitLines (['\n'].intercalate (front ++ [last])) = front ++ [last] :=
      splitLines_intercalate (by simp) fun l hl => (hls l hl).1
    have hfront : (front.map chopReturn).filterMap f = front.filterMap f := by
      rw [List.filterMap_map]
      exact List.filterMap_congr fun l hl => (hls l (List.mem_append_left _ hl)).2
    rw [lines, hsplit, List.dropLast_concat, List.getLast?_concat, Option.getD_some, List.filterMap_append,
      List.filterMap_append, hfront]
    cases last with
    | nil => rw [List.filterMap_cons_none hnil]; rfl
    | cons c last => rfl

/-! ## Runs of digits -/

theorem digitRunsAfter_append (hxs : ∀ c ∈ xs, isDecimal c = true) (before cs : List Char) :
    digitRunsAfter before (xs ++ cs) = digitRunsAfter (xs.reverse ++ before) cs := by
  induction xs generalizing before with
  | nil => rfl
  | cons c xs ih =>
    obtain ⟨hc, hxs⟩ := List.forall_mem_cons.1 hxs
    rw [List.cons_append, digitRunsAfter, if_pos hc, ih hxs, List.reverse_cons, List.append_assoc]
    rfl

/-- A number with something else behind it is the first run of digits. -/
theorem digitRuns_digits (n : Nat) (hcs : StartsOutside isDecimal cs) :
    digitRuns (digits n ++ cs) = digits n :: digitRuns cs := by
  have hne : ((digits n).reverse ++ []).isEmpty = false := by simpa using digits_ne_nil n
  rw [digitRuns, digitRunsAfter_append (isDecimal_digits n)]
  cases cs with
  | nil =>
    rw [digitRunsAfter, hne, if_neg Bool.false_ne_true, List.append_nil, List.reverse_reverse]
    rfl
  | cons c cs =>
    have hc : isDecimal c = false := startsOutside_cons.1 hcs
    rw [digitRunsAfter, hc, if_neg Bool.false_ne_true, hne, if_neg Bool.false_ne_true, List.append_nil,
      List.reverse_reverse, digitRuns, digitRunsAfter, hc]
    rfl

/-- What has no digits in it is passed over. -/
theorem digitRuns_append (hxs : ∀ c ∈ xs, isDecimal c = false) (cs : List Char) :
    digitRuns (xs ++ cs) = digitRuns cs := by
  induction xs with
  | nil => rfl
  | cons c xs ih =>
    obtain ⟨hc, hxs⟩ := List.forall_mem_cons.1 hxs
    rw [← ih hxs, List.cons_append, digitRuns, digitRunsAfter, hc]
    rfl

/-- The numbers of a list with commas are its runs of digits. -/
theorem digitRuns_intercalate (ns : List Nat) (hcs : ∀ c ∈ cs, isDecimal c = false) :
    digitRuns ([',', ' '].intercalate (ns.map digits) ++ cs) = ns.map digits := by
  have hcomma : isDecimal ',' = false := by decide
  have hseparator : ∀ c ∈ [',', ' '], isDecimal c = false :=
    List.forall_mem_cons.2 ⟨hcomma, List.forall_mem_singleton.2 (by decide)⟩
  have hempty : digitRuns cs = [] := by
    have h := digitRuns_append hcs []
    rwa [List.append_nil] at h
  induction ns with
  | nil => exact hempty
  | cons n ns ih =>
    cases ns with
    | nil =>
      have hstart : StartsOutside isDecimal cs := fun c hc => hcs c (List.mem_of_head? hc)
      rw [List.map_singleton, List.intercalate_singleton, digitRuns_digits n hstart, hempty]
    | cons m ns =>
      rw [List.map_cons, List.map_cons, List.intercalate_cons_cons, List.append_assoc, List.append_assoc,
        digitRuns_digits n (.append (List.cons_ne_nil _ _) (startsOutside_cons.2 hcomma)), digitRuns_append hseparator,
        ← List.map_cons, ih]

end SwitchFabric.Text
