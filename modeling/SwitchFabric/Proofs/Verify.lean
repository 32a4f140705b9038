import Mathlib.Data.List.Basic
import SwitchFabric.Verify

/-!
# Calls made in order

Expected calls are looked for one after the other, each behind the one before it. To take the first occurrence of a call
every time loses nothing, since what follows a later occurrence follows the first one as well
(`cons_sublist_iff_after`). So the search comes to an end for the subsequences of the calls and for no other lists
(`firstOutOfPlace_eq_none_iff`), and for the others it stops at the call that breaks the order
(`firstOutOfPlace_eq_some_iff`). The assertion reports that call, and whether it was made at all
(`inOrder_decides_sublist`).
-/

namespace SwitchFabric.Verify

variable {call c : Call} {calls expected rest : List Call}

/-- The expected calls in front of a call were made in this order, but not with the call behind them. No two places are
like this, since what begins a subsequence is a subsequence itself. -/
def BreaksOrder (calls expected : List Call) (call : Call) : Prop :=
  ∃ before behind, expected = before ++ call :: behind ∧ before.Sublist calls ∧ ¬ (before ++ [call]).Sublist calls

/-! ## One call -/

theorem cons_sublist_iff_after :
    (call :: expected).Sublist calls ↔ ∃ rest, after call calls = some rest ∧ expected.Sublist rest := by
  induction calls with
  | nil => simp [after]
  | cons c calls ih =>
    rw [after]
    split
    · next hc =>
      rw [hc, List.cons_sublist_cons]
      simp
    · next hc =>
      rw [List.cons_sublist_cons', ← ih]
      exact or_iff_left fun h => hc h.1.symm

/-- A call that does not occur breaks the order, whatever is expected behind it. -/
theorem breaksOrder_cons_of_none (h : after call calls = none) : BreaksOrder calls (call :: expected) c ↔ c = call := by
  have hnot (l : List Call) : ¬ (call :: l).Sublist calls := by simp [cons_sublist_iff_after, h]
  constructor
  · rintro ⟨before, behind, hsplit, hbefore, -⟩
    cases before with
    | nil => exact (List.cons.inj hsplit).1.symm
    | cons b before =>
      obtain ⟨rfl, -⟩ := List.cons.inj hsplit
      exact absurd hbefore (hnot before)
  · rintro rfl
    exact ⟨[], expected, rfl, List.nil_sublist calls, hnot []⟩

/-- Behind a call that occurs, the order is broken where it is broken in what follows the first occurrence. -/
theorem breaksOrder_cons_of_some (h : after call calls = some rest) :
    BreaksOrder calls (call :: expected) c ↔ BreaksOrder rest expected c := by
  have hiff (l : List Call) : (call :: l).Sublist calls ↔ l.Sublist rest := by simp [cons_sublist_iff_after, h]
  constructor
  · rintro ⟨before, behind, hsplit, hbefore, hnot⟩
    cases before with
    | nil =>
      obtain ⟨rfl, -⟩ := List.cons.inj hsplit
      exact absurd ((hiff []).2 (List.nil_sublist rest)) hnot
    | cons b before =>
      obtain ⟨rfl, rfl⟩ := List.cons.inj hsplit
      exact ⟨before, behind, rfl, (hiff before).1 hbefore, fun hmade => hnot ((hiff _).2 hmade)⟩
  · rintro ⟨before, behind, rfl, hbefore, hnot⟩
    exact ⟨call :: before, behind, rfl, (hiff before).2 hbefore, fun hmade => hnot ((hiff _).1 hmade)⟩

/-! ## All calls -/

theorem firstOutOfPlace_eq_none_iff : firstOutOfPlace calls expected = none ↔ expected.Sublist calls := by
  induction expected generalizing calls with
  | nil => simp [firstOutOfPlace]
  | cons call expected ih =>
    rw [firstOutOfPlace, cons_sublist_iff_after]
    cases after call calls with
    | none => simp
    | some rest => simp [ih]

theorem firstOutOfPlace_eq_some_iff : firstOutOfPlace calls expected = some c ↔ BreaksOrder calls expected c := by
  induction expected generalizing calls with
  | nil => simp [firstOutOfPlace, BreaksOrder]
  | cons call expected ih =>
    rw [firstOutOfPlace]
    cases hafter : after call calls with
    | none =>
      rw [breaksOrder_cons_of_none hafter, Option.some_inj]
      exact eq_comm
    | some rest =>
      rw [breaksOrder_cons_of_some hafter]
      exact ih

/-- A call that was made once is out of place where it is expected again. -/
example : firstOutOfPlace [.act (.createLagInterface 5), .act .enableMlag]
    [.act (.createLagInterface 5), .act .enableMlag, .act (.createLagInterface 5)] =
      some (.act (.createLagInterface 5)) := by decide

/-- The assertion decides whether the expected calls are a subsequence of the calls of a switch. Where they are not, it
reports the call that breaks the order, as out of order if the switch got it at any place, and else as not found. -/
theorem inOrder_decides_sublist (log : List RecordedCall) (switch : String) (expected : List Call) :
    (inOrder log switch expected = .ok () ↔ expected.Sublist (callsFor log switch)) ∧
    ∀ e, inOrder log switch expected = .error e ↔ ∃ call, BreaksOrder (callsFor log switch) expected call ∧
      ((call ∈ callsFor log switch ∧ e = .outOfOrder switch call.shown (describe log switch)) ∨
        (call ∉ callsFor log switch ∧ e = .callNotFound switch call.shown (describe log switch))) := by
  simp only [← firstOutOfPlace_eq_none_iff, ← firstOutOfPlace_eq_some_iff]
  rw [inOrder]
  cases firstOutOfPlace (callsFor log switch) expected with
  | none => simp
  | some call =>
    by_cases hmade : call ∈ callsFor log switch
    · simp [hmade, eq_comm]
    · simp [hmade, eq_comm]

end SwitchFabric.Verify
