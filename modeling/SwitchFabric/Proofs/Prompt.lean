import SwitchFabric.Prompt
import SwitchFabric.Proofs.Text.Utf8

/-!
# Questions and their answers

The input of a terminal is cut behind its line feeds (`Cut`). A question takes the first line, whatever comes of it
(`confirm_of_cut`). So of questions that are asked one after the other each is answered by its own line
(`answered_by_own_line`).
-/

namespace SwitchFabric

open Text

/-- Ask questions one after the other, whatever their answers are. -/
def Operator.confirmEach {π : Type} (o : Operator π) : List String → π → List (Except PromptError Bool) × π
  | [], s => ([], s)
  | message :: messages, s =>
    let (answer, s) := o.confirm message s
    let (answers, s) := confirmEach o messages s
    (answer :: answers, s)

/-! ## Consent -/

/-- A text is `Y` or `yes` with blanks around it. -/
def Consents (cs : List Char) : Prop :=
  ∃ before word behind, cs = before ++ (word ++ behind) ∧ (∀ c ∈ before, isBlank c = true) ∧
    (∀ c ∈ behind, isBlank c = true) ∧ (word = "Y".toList ∨ word = "yes".toList)

theorem isAffirmative_iff {cs : List Char} : isAffirmative cs = true ↔ Consents cs := by
  simp only [isAffirmative, Bool.or_eq_true, beq_iff_eq]
  constructor
  · intro h
    obtain ⟨before, behind, hbefore, hbehind, hcs⟩ := exists_trim cs
    exact ⟨before, trim cs, behind, hcs, hbefore, hbehind, h⟩
  · rintro ⟨before, word, behind, rfl, hbefore, hbehind, hword⟩
    rw [trim_append hbefore hbehind]
    rcases hword with rfl | rfl
    · exact .inl (by decide)
    · exact .inr (by decide)

namespace Terminal

/-! ## Lines -/

/-- An input is cut behind each of its line feeds. Bytes behind the last one are a line as well. -/
inductive Cut : List UInt8 → List (List UInt8) → Prop where
  | done : Cut [] []
  | rest {line : List UInt8} (hne : line ≠ []) (hfeed : 10 ∉ line) : Cut line [line]
  | line {line input : List UInt8} {lines : List (List UInt8)} (hfeed : 10 ∉ line) (h : Cut input lines) :
    Cut (line ++ 10 :: input) ((line ++ [10]) :: lines)

variable {t : Terminal} {line input : List UInt8} {lines : List (List UInt8)}

theorem exists_cut (input : List UInt8) : ∃ lines, Cut input lines := by
  induction input with
  | nil => exact ⟨[], .done⟩
  | cons b input ih =>
    obtain ⟨lines, h⟩ := ih
    by_cases hb : b = 10
    · rw [hb]
      exact ⟨_, .line List.not_mem_nil h⟩
    · cases h with
      | done => exact ⟨_, .rest (List.cons_ne_nil b []) (by simpa using Ne.symm hb)⟩
      | rest _ hfeed => exact ⟨_, .rest (List.cons_ne_nil b _) (List.not_mem_cons_of_ne_of_not_mem (Ne.symm hb) hfeed)⟩
      | line hfeed h => exact ⟨_, .line (List.not_mem_cons_of_ne_of_not_mem (Ne.symm hb) hfeed) h⟩

theorem firstLine_of_notMem (hfeed : 10 ∉ line) : firstLine line = (line, []) := by
  induction line with
  | nil => rfl
  | cons b line ih =>
    obtain ⟨hb, hfeed⟩ := List.ne_and_not_mem_of_not_mem_cons hfeed
    rw [firstLine, if_neg (by simpa using Ne.symm hb), ih hfeed]

theorem firstLine_append (hfeed : 10 ∉ line) : firstLine (line ++ 10 :: input) = (line ++ [10], input) := by
  induction line with
  | nil => rfl
  | cons b line ih =>
    obtain ⟨hb, hfeed⟩ := List.ne_and_not_mem_of_not_mem_cons hfeed
    rw [List.cons_append, firstLine, if_neg (by simpa using Ne.symm hb), ih hfeed, List.cons_append]

/-! ## Answers -/

/-- What comes of a question for which there is a line or none. Without a line the input is closed, a line that is no text is
an error, and a text is an answer. -/
def Answers : Option (List UInt8) → Except PromptError Bool → Prop
  | none, answer => answer = .error .closed
  | some line, answer => ((∀ s, encode s ≠ line) → ∃ fault, answer = .error (.notText fault)) ∧
    ∀ s, encode s = line → ∃ consent, answer = .ok consent ∧ (consent = true ↔ Consents s.toList)

theorem answers_line (message : String) (hline : firstLine t.input = (line, input)) (hne : line ≠ []) :
    Answers (some line) (t.confirm message).1 ∧ (t.confirm message).2 = ⟨input, t.shown ++ question message⟩ := by
  have hempty : ¬ line.isEmpty = true := by simpa using hne
  rw [confirm, hline]
  dsimp only
  rw [if_neg hempty]
  cases hfault : firstFault? 0 line with
  | some fault =>
    refine ⟨⟨fun _ => ⟨fault, rfl⟩, fun s hs => ?_⟩, rfl⟩
    rw [firstFault?_eq_none_iff.2 ⟨s, hs⟩] at hfault
    cases hfault
  | none =>
    obtain ⟨s, hs⟩ := firstFault?_eq_none_iff.1 hfault
    refine ⟨⟨fun hnot => absurd hs (hnot s), fun s' hs' => ⟨isAffirmative s'.toList, ?_, isAffirmative_iff⟩⟩, rfl⟩
    dsimp only
    rw [← hs', decodeLenient_encode]

/-- A question is answered by the first line and leaves the others. -/
theorem confirm_of_cut (h : Cut t.input lines) (message : String) :
    Answers lines.head? (t.confirm message).1 ∧ Cut (t.confirm message).2.input lines.tail ∧
      (t.confirm message).2.shown = t.shown ++ question message := by
  generalize hinput : t.input = input at h
  cases h with
  | done =>
    rw [confirm, hinput]
    exact ⟨rfl, .done, rfl⟩
  | rest hne hfeed =>
    obtain ⟨hanswer, hafter⟩ := answers_line message ((congrArg firstLine hinput).trans (firstLine_of_notMem hfeed)) hne
    rw [hafter]
    exact ⟨hanswer, .done, rfl⟩
  | line hfeed h =>
    obtain ⟨hanswer, hafter⟩ := answers_line message ((congrArg firstLine hinput).trans (firstLine_append hfeed)) (by simp)
    rw [hafter]
    exact ⟨hanswer, h, rfl⟩

/-- Of questions asked one after the other each is answered by its own line, whatever came of those before, and all of them
are shown. The lines behind theirs are left. -/
theorem answered_by_own_line (t : Terminal) (messages : List String) :
    (∃ lines, Cut t.input lines) ∧ ∀ lines, Cut t.input lines →
      (operator.confirmEach messages t).1.length = messages.length ∧
      (∀ (k : Nat) answer, (operator.confirmEach messages t).1[k]? = some answer → Answers lines[k]? answer) ∧
      (operator.confirmEach messages t).2.shown = t.shown ++ String.join (messages.map question) ∧
      Cut (operator.confirmEach messages t).2.input (lines.drop messages.length) := by
  refine ⟨exists_cut t.input, ?_⟩
  induction messages generalizing t with
  | nil =>
    intro lines h
    exact ⟨rfl, fun k answer hk => by simp [Operator.confirmEach] at hk, by simp [Operator.confirmEach, String.join], h⟩
  | cons message messages ih =>
    intro lines h
    obtain ⟨hanswer, hcut, hshown⟩ := confirm_of_cut h message
    obtain ⟨hlength, hanswers, hshows, hleft⟩ := ih _ _ hcut
    refine ⟨congrArg (· + 1) hlength, fun k answer hk => ?_, ?_, ?_⟩
    · cases k with
      | zero =>
        obtain rfl := Option.some.inj hk
        rwa [← List.head?_eq_getElem?]
      | succ k =>
        have htail : lines.tail[k]? = lines[k + 1]? := by rw [List.getElem?_tail]
        rw [← htail]
        exact hanswers k answer hk
    · exact hshows.trans (by rw [hshown, List.map_cons, String.join_cons, String.append_assoc])
    · rwa [List.drop_tail] at hleft

/-- Three lines, of which the second is no text and the third has no line feed, and four questions. -/
theorem answered_by_own_line_brokenLine :
    let t : Terminal := ⟨[0x79, 0x65, 0x73, 10, 0xc3, 0x28, 10, 0x59], ""⟩
    let lines : List (List UInt8) := [[0x79, 0x65, 0x73, 10], [0xc3, 0x28, 10], [0x59]]
    let asked := operator.confirmEach ["a", "b", "c", "d"] t
    (Cut t.input lines ∧ encode "yes\n" = [0x79, 0x65, 0x73, 10] ∧ encode "Y" = [0x59]) ∧
      asked.1[0]? = some (.ok true) ∧ (∃ fault, asked.1[1]? = some (.error (.notText fault))) ∧
      asked.1[2]? = some (.ok true) ∧ asked.1[3]? = some (.error .closed) ∧
      asked.2.shown = "\n\na\nEnter (Y/yes/n): \n\nb\nEnter (Y/yes/n): \n\nc\nEnter (Y/yes/n): \n\nd\nEnter (Y/yes/n): " := by
  intro t lines asked
  have hfeed : (10 : UInt8) ∉ [0x79, 0x65, 0x73] := by decide
  have hfeed' : (10 : UInt8) ∉ [0xc3, 0x28] := by decide
  have hcut : Cut t.input lines := .line hfeed (.line hfeed' (.rest (List.cons_ne_nil 0x59 []) (by decide)))
  obtain ⟨hlength, hanswers, hshown, -⟩ := (answered_by_own_line t ["a", "b", "c", "d"]).2 lines hcut
  have hanswer (k : Nat) (hk : k < 4) : ∃ answer, asked.1[k]? = some answer ∧ Answers lines[k]? answer := by
    obtain ⟨answer, hsome⟩ : ∃ answer, asked.1[k]? = some answer := ⟨_, List.getElem?_eq_getElem (hlength ▸ hk)⟩
    exact ⟨answer, hsome, hanswers k answer hsome⟩
  have hyes : encode "yes\n" = [0x79, 0x65, 0x73, 10] := (encode_ofList ['y', 'e', 's', '\n']).trans (by decide)
  have hY : encode "Y" = [0x59] := (encode_ofList ['Y']).trans (by decide)
  have hbroken (s : String) : encode s ≠ [0xc3, 0x28, 10] := fun hs => by
    have hnone : firstFault? 0 [0xc3, 0x28, 10] = none := firstFault?_eq_none_iff.2 ⟨s, hs⟩
    have hfault : firstFault? 0 [0xc3, 0x28, 10] = some ⟨0, some 1⟩ := by
      rw [firstFault?]
      rfl
    rw [hfault] at hnone
    cases hnone
  obtain ⟨first, hfirst, -, htext⟩ := hanswer 0 (by decide)
  obtain ⟨second, hsecond, hfault, -⟩ := hanswer 1 (by decide)
  obtain ⟨third, hthird, -, htext'⟩ := hanswer 2 (by decide)
  obtain ⟨fourth, hfourth, hclosed⟩ := hanswer 3 (by decide)
  obtain ⟨consent, rfl, hconsent⟩ := htext _ hyes
  obtain ⟨consent', rfl, hconsent'⟩ := htext' _ hY
  obtain ⟨fault, rfl⟩ := hfault hbroken
  refine ⟨⟨hcut, hyes, hY⟩, ?_, ⟨fault, hsecond⟩, ?_, hclosed ▸ hfourth, hshown.trans (by decide +kernel)⟩
  · rw [hfirst, hconsent.2 ⟨[], _, ['\n'], rfl, List.all_eq_true.1 rfl, List.all_eq_true.1 rfl, .inr rfl⟩]
  · rw [hthird, hconsent'.2 ⟨[], _, [], rfl, List.all_eq_true.1 rfl, List.all_eq_true.1 rfl, .inl rfl⟩]

end Terminal

end SwitchFabric
