/-!
# White space

`isBlank` is the White_Space property of Unicode. Trimming removes blanks at both ends, `words`
splits at runs of blanks, and `lines` splits at line feeds.

A text is what it is trimmed to with blanks around it (`exists_trim`), blanks around a text do not count when it is
trimmed (`trim_append`), and a text without blanks is trimmed to itself (`trim_eq_self`).
-/

namespace SwitchFabric.Text

/-- White space: the blanks of ASCII, next line, the two no-break spaces, the typographic spaces,
and the line and paragraph separators. -/
def isBlank (c : Char) : Bool :=
  let n := c.toNat
  (9 ≤ n && n ≤ 13) || n == 0x20 || n == 0x85 || n == 0xa0 || n == 0x1680 ||
    (0x2000 ≤ n && n ≤ 0x200a) || n == 0x2028 || n == 0x2029 || n == 0x202f || n == 0x205f ||
    n == 0x3000

/-- `cs` without its trailing elements that satisfy `p`. -/
def dropEndWhile (p : Char → Bool) (cs : List Char) : List Char :=
  (cs.reverse.dropWhile p).reverse

/-- `cs` without the blanks at its two ends. -/
def trim (cs : List Char) : List Char :=
  dropEndWhile isBlank (cs.dropWhile isBlank)

/-- The maximal runs of characters that are not blank; `word` holds the run being read, last
character first. -/
def wordsAfter (word : List Char) : List Char → List (List Char)
  | [] => if word.isEmpty then [] else [word.reverse]
  | c :: cs =>
    if isBlank c then
      if word.isEmpty then wordsAfter [] cs else word.reverse :: wordsAfter [] cs
    else wordsAfter (c :: word) cs

/-- The maximal runs of characters that are not blank. -/
def words (cs : List Char) : List (List Char) := wordsAfter [] cs

/-- The pieces of `cs` between line feeds; a text of n line feeds has n + 1 pieces. -/
def splitLines : List Char → List (List Char)
  | [] => [[]]
  | c :: cs =>
    if c == '\n' then [] :: splitLines cs
    else
      match splitLines cs with
      | [] => [[c]]
      | l :: ls => (c :: l) :: ls

/-- A line without the carriage return at its end. -/
def chopReturn (l : List Char) : List Char :=
  if l.getLast? == some '\r' then l.dropLast else l

/-- The lines of `cs`: each ends at a line feed, with or without a carriage return before it, or at
the end of the text. A last line without characters does not count, and a carriage return at the
very end of the text belongs to its line. -/
def lines (cs : List Char) : List (List Char) :=
  let pieces := splitLines cs
  let last := pieces.getLast?.getD []
  pieces.dropLast.map chopReturn ++ (if last.isEmpty then [] else [last])

theorem dropEndWhile_eq_self {p : Char → Bool} {cs : List Char}
    (h : ∀ c, cs.getLast? = some c → p c = false) : dropEndWhile p cs = cs := by
  rw [List.getLast?_eq_head?_reverse] at h
  unfold dropEndWhile
  match hr : cs.reverse with
  | [] => simpa using congrArg List.reverse hr.symm
  | c :: rest =>
    rw [hr] at h
    simp only [List.dropWhile_cons, h c rfl]
    simpa using congrArg List.reverse hr.symm

theorem dropEndWhile_append {p : Char → Bool} {cs behind : List Char} (h : ∀ c ∈ behind, p c = true) :
    dropEndWhile p (cs ++ behind) = dropEndWhile p cs := by
  unfold dropEndWhile
  rw [List.reverse_append, List.dropWhile_append_of_pos fun c hc => h c (List.mem_reverse.1 hc)]

theorem exists_dropEndWhile (p : Char → Bool) (cs : List Char) :
    ∃ behind, (∀ c ∈ behind, p c = true) ∧ cs = dropEndWhile p cs ++ behind := by
  refine ⟨(cs.reverse.takeWhile p).reverse, fun c hc => ?_, ?_⟩
  · exact List.all_eq_true.1 List.all_takeWhile c (List.mem_reverse.1 hc)
  · unfold dropEndWhile
    rw [← List.reverse_append, List.takeWhile_append_dropWhile, List.reverse_reverse]

/-- A text is what it is trimmed to, with blanks around it. -/
theorem exists_trim (cs : List Char) : ∃ before behind, (∀ c ∈ before, isBlank c = true) ∧
    (∀ c ∈ behind, isBlank c = true) ∧ cs = before ++ (trim cs ++ behind) := by
  obtain ⟨behind, hbehind, htrim⟩ := exists_dropEndWhile isBlank (cs.dropWhile isBlank)
  refine ⟨cs.takeWhile isBlank, behind, List.all_eq_true.1 List.all_takeWhile, hbehind, ?_⟩
  unfold trim
  rw [← htrim, List.takeWhile_append_dropWhile]

/-- Blanks around a text do not count. -/
theorem trim_append {before cs behind : List Char} (hbefore : ∀ c ∈ before, isBlank c = true)
    (hbehind : ∀ c ∈ behind, isBlank c = true) : trim (before ++ (cs ++ behind)) = trim cs := by
  unfold trim
  rw [List.dropWhile_append_of_pos hbefore, List.dropWhile_append]
  split
  · next hempty =>
    have hnone : (behind ++ []).dropWhile isBlank = [] := List.dropWhile_append_of_pos hbehind
    rw [List.append_nil] at hnone
    rw [hnone, List.isEmpty_iff.1 hempty]
  · exact dropEndWhile_append hbehind

/-- Nothing is trimmed from a text without blanks. -/
theorem trim_eq_self {cs : List Char} (h : ∀ c ∈ cs, isBlank c = false) : trim cs = cs := by
  have hfirst : cs.dropWhile isBlank = cs := by
    cases cs with
    | nil => rfl
    | cons c rest => simp [h c List.mem_cons_self]
  unfold trim
  rw [hfirst]
  exact dropEndWhile_eq_self fun c hc => h c (List.mem_of_getLast? hc)

end SwitchFabric.Text
