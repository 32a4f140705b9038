import SwitchFabric.Text.Decimal
import SwitchFabric.Text.Search

/-!
# Searching without giving back

A run gives characters back only where the rest of its pattern could fit behind fewer of them. Where the rest starts
with something that no character of the run can be (`Pattern.Stops`), the run takes all that it can or fails
(`fieldsAt_run`). A run that ends the pattern takes all that it can, too (`fieldsAt_last`).

Conversely, where a pattern fits, a text starts with what each of its pieces takes (`exists_of_fieldsAt_run`,
`exists_of_fieldsAt_field`, `exists_of_fieldsAt_text`).

A search passes over a text in which the pattern fits nowhere, seen together with the text behind it
(`Pattern.PassesOver`). The rows of tables start with a number and blanks; such a pattern fits at no place of a word
unless the rest of it fits behind the word (`passesOver_word`).
-/

namespace SwitchFabric.Text

/-! ## Blanks -/

theorem isBlank_eq_false_of_isDigit {c : Char} (h : c.isDigit = true) : isBlank c = false := by
  simp only [Char.isDigit, Bool.and_eq_true, decide_eq_true_eq, UInt32.le_iff_toNat_le] at h
  have hlow : 48 ≤ c.toNat := h.1
  have hhigh : c.toNat ≤ 57 := h.2
  simp only [isBlank, Bool.or_eq_false_iff, Bool.and_eq_false_iff, decide_eq_false_iff_not, beq_eq_false_iff_ne]
  omega

/-- The code points of blanks. -/
def blankPoints : List Nat :=
  [0x9, 0xa, 0xb, 0xc, 0xd, 0x20, 0x85, 0xa0, 0x1680, 0x2000, 0x2001, 0x2002, 0x2003, 0x2004, 0x2005, 0x2006, 0x2007,
    0x2008, 0x2009, 0x200a, 0x2028, 0x2029, 0x202f, 0x205f, 0x3000]

theorem toNat_mem_blankPoints {c : Char} (h : isBlank c = true) : c.toNat ∈ blankPoints := by
  simp only [isBlank, Bool.or_eq_true, Bool.and_eq_true, decide_eq_true_eq, beq_iff_eq] at h
  simp only [blankPoints, List.mem_cons, List.not_mem_nil, or_false]
  omega

/-- No blank is a word character. -/
theorem isWordChar_eq_false_of_isBlank {c : Char} (h : isBlank c = true) : isWordChar c = false := by
  have hall : ∀ n ∈ blankPoints, isWordChar (Char.ofNat n) = false := by decide +kernel
  have hc := hall _ (toNat_mem_blankPoints h)
  rwa [Char.ofNat_toNat] at hc

/-- No blank is a decimal digit. -/
theorem isDecimal_eq_false_of_isBlank {c : Char} (h : isBlank c = true) : isDecimal c = false := by
  have hall : ∀ n ∈ blankPoints, isDecimal (Char.ofNat n) = false := by decide +kernel
  have hc := hall _ (toNat_mem_blankPoints h)
  rwa [Char.ofNat_toNat] at hc

theorem isBlank_eq_false_of_isWordChar {c : Char} (h : isWordChar c = true) : isBlank c = false := by
  cases hblank : isBlank c with
  | false => rfl
  | true =>
    rw [isWordChar_eq_false_of_isBlank hblank] at h
    cases h

/-- No character is a blank. -/
def Solid (cs : List Char) : Prop := ∀ c ∈ cs, isBlank c = false

instance (cs : List Char) : Decidable (Solid cs) := List.decidableBAll (isBlank · = false) cs

theorem solid_digits (n : Nat) : Solid (digits n) := fun _ hc => isBlank_eq_false_of_isDigit (isDigit_of_mem_digits hc)

theorem isDecimal_digits (n : Nat) : ∀ c ∈ digits n, isDecimal c = true := fun _ hc =>
  isDecimal_of_isDigit (isDigit_of_mem_digits hc)

namespace Pattern

variable {p : Pattern} {least : Nat} {inside : Char → Bool} {cs xs ys : List Char}

/-! ## Pieces -/

theorem fieldsAt_cons_text (t : List Char) :
    fieldsAt (.text t :: p) cs = if t.isPrefixOf cs then p.fieldsAt (cs.drop t.length) else none := rfl

theorem fieldsAt_cons_run : fieldsAt (.run least inside :: p) cs =
    fromLongest least (fun n => p.fieldsAt (cs.drop n)) (cs.takeWhile inside).length := rfl

theorem fieldsAt_cons_field : fieldsAt (.field least inside :: p) cs =
    fromLongest least (fun n => (p.fieldsAt (cs.drop n)).map (cs.take n :: ·)) (cs.takeWhile inside).length := rfl

theorem fieldsAt_cons_word (choices : List (List Char)) : fieldsAt (.word choices :: p) cs =
    choices.findSome? fun w => if w.isPrefixOf cs then (p.fieldsAt (cs.drop w.length)).map (w :: ·) else none := rfl

/-! ## Runs -/

theorem fromLongest_of_some {α : Type} {f : Nat → Option α} {n : Nat} {a : α} (hn : least ≤ n) (h : f n = some a) :
    fromLongest least f n = some a := by
  cases n with
  | zero => rw [fromLongest, if_pos (Nat.le_zero.1 hn), h]
  | succ n => rw [fromLongest, if_neg (Nat.not_lt.2 hn), h]

theorem fromLongest_eq_none {α : Type} {f : Nat → Option α} {n : Nat} (h : ∀ k ≤ n, least ≤ k → f k = none) :
    fromLongest least f n = none := by
  induction n with
  | zero =>
    rw [fromLongest]
    split
    · next hleast => exact h 0 (Nat.le_refl 0) (Nat.le_of_eq hleast)
    · rfl
  | succ n ih =>
    rw [fromLongest]
    split
    · rfl
    · next hleast =>
      rw [h (n + 1) (Nat.le_refl _) (Nat.not_lt.1 hleast)]
      exact ih fun k hk => h k (Nat.le_succ_of_le hk)

/-- The pattern fits no text that starts inside a class of characters. -/
def Stops (p : Pattern) (inside : Char → Bool) : Prop := ∀ c cs, inside c = true → p.fieldsAt (c :: cs) = none

/-- A text does not start inside a class of characters. -/
def StartsOutside (inside : Char → Bool) (cs : List Char) : Prop := ∀ c, cs.head? = some c → inside c = false

theorem startsOutside_nil : StartsOutside inside [] := nofun

theorem startsOutside_cons {c : Char} : StartsOutside inside (c :: cs) ↔ inside c = false :=
  ⟨fun h => h c rfl, fun h d hd => by cases hd; exact h⟩

theorem StartsOutside.append (hne : xs ≠ []) (h : StartsOutside inside xs) : StartsOutside inside (xs ++ ys) := by
  cases xs with
  | nil => exact absurd rfl hne
  | cons c xs => exact startsOutside_cons.2 (startsOutside_cons.1 h)

/-- A number ends where blanks start. -/
theorem startsOutside_isDecimal (hne : xs ≠ []) (hblank : ∀ c ∈ xs, isBlank c = true) (ys : List Char) :
    StartsOutside isDecimal (xs ++ ys) :=
  .append hne fun c hc => isDecimal_eq_false_of_isBlank (hblank c (List.mem_of_head? hc))

/-- Blanks end where a number starts. -/
theorem startsOutside_isBlank (hne : xs ≠ []) (hdigits : ∀ c ∈ xs, c.isDigit = true) (ys : List Char) :
    StartsOutside isBlank (xs ++ ys) :=
  .append hne fun c hc => isBlank_eq_false_of_isDigit (hdigits c (List.mem_of_head? hc))

theorem StartsOutside.takeWhile_eq_nil (h : StartsOutside inside cs) : cs.takeWhile inside = [] := by
  cases cs with
  | nil => rfl
  | cons c cs => exact List.takeWhile_cons_of_neg (by simp [startsOutside_cons.1 h])

theorem StartsOutside.dropWhile_eq_self (h : StartsOutside inside cs) : cs.dropWhile inside = cs := by
  cases cs with
  | nil => rfl
  | cons c cs => exact List.dropWhile_cons_of_neg (by simp [startsOutside_cons.1 h])

/-- The characters of a class at the start of a text, and what follows them. -/
theorem takeWhile_append_of_startsOutside (hxs : ∀ c ∈ xs, inside c = true) (hys : StartsOutside inside ys) :
    (xs ++ ys).takeWhile inside = xs := by
  rw [List.takeWhile_append_of_pos hxs, hys.takeWhile_eq_nil, List.append_nil]

theorem dropWhile_append_of_startsOutside (hxs : ∀ c ∈ xs, inside c = true) (hys : StartsOutside inside ys) :
    (xs ++ ys).dropWhile inside = ys := by
  rw [List.dropWhile_append_of_pos hxs, hys.dropWhile_eq_self]

/-- Where the rest of the pattern cannot start inside it, a run takes all that it can. -/
theorem fieldsAt_run (hxs : ∀ c ∈ xs, inside c = true) (hleast : least ≤ xs.length) (hys : StartsOutside inside ys)
    (hstops : p.Stops inside) : fieldsAt (.run least inside :: p) (xs ++ ys) = p.fieldsAt ys := by
  have hlong : p.fieldsAt ((xs ++ ys).drop xs.length) = p.fieldsAt ys := by rw [List.drop_left]
  rw [fieldsAt_cons_run, takeWhile_append_of_startsOutside hxs hys]
  cases h : p.fieldsAt ys with
  | some fields => exact fromLongest_of_some hleast (hlong.trans h)
  | none =>
    refine fromLongest_eq_none fun k hk _ => ?_
    rcases Nat.lt_or_eq_of_le hk with hk | rfl
    · rw [List.drop_append_of_le_length (Nat.le_of_lt hk), List.drop_eq_getElem_cons hk]
      exact hstops _ _ (hxs _ (List.getElem_mem hk))
    · exact hlong.trans h

/-- A run takes all that it can if the rest fits behind it. -/
theorem fieldsAt_run_of_some (hxs : ∀ c ∈ xs, inside c = true) (hys : StartsOutside inside ys)
    (hleast : least ≤ xs.length) {fields : List (List Char)} (h : p.fieldsAt ys = some fields) :
    fieldsAt (.run least inside :: p) (xs ++ ys) = some fields := by
  rw [fieldsAt_cons_run, takeWhile_append_of_startsOutside hxs hys]
  exact fromLongest_of_some hleast (by rw [List.drop_left, h])

/-- A run that must have a character does not fit where none is. -/
theorem fieldsAt_run_eq_none (h : StartsOutside inside cs) : fieldsAt (.run (least + 1) inside :: p) cs = none := by
  rw [fieldsAt_cons_run, h.takeWhile_eq_nil]
  rfl

theorem stops_run {outside : Char → Bool} (h : ∀ c, inside c = true → outside c = false) :
    Stops (.run (least + 1) outside :: p) inside := fun c _ hc =>
  fieldsAt_run_eq_none (startsOutside_cons.2 (h c hc))

/-- A field takes all that it can if the rest fits behind it. -/
theorem fieldsAt_field (hxs : ∀ c ∈ xs, inside c = true) (hys : StartsOutside inside ys) (hleast : least ≤ xs.length)
    {fields : List (List Char)} (h : p.fieldsAt ys = some fields) :
    fieldsAt (.field least inside :: p) (xs ++ ys) = some (xs :: fields) := by
  rw [fieldsAt_cons_field, takeWhile_append_of_startsOutside hxs hys]
  exact fromLongest_of_some hleast (by rw [List.drop_left, List.take_left, h, Option.map_some])

/-- A field that ends the pattern takes all that it can. -/
theorem fieldsAt_last (inside : Char → Bool) (cs : List Char) :
    fieldsAt [.field 0 inside] cs = some [cs.takeWhile inside] := by
  have htake : cs.take (cs.takeWhile inside).length = cs.takeWhile inside :=
    (List.prefix_iff_eq_take.1 (List.takeWhile_prefix inside)).symm
  rw [fieldsAt_cons_field]
  exact fromLongest_of_some (Nat.zero_le _) (by simp [fieldsAt, htake])

/-! ## Fixed texts -/

theorem fieldsAt_text (t : List Char) : fieldsAt (.text t :: p) (t ++ cs) = p.fieldsAt cs := by
  rw [fieldsAt_cons_text, if_pos (List.isPrefixOf_iff_prefix.2 (List.prefix_append t cs)), List.drop_left]

theorem fieldsAt_text_eq_none {t : List Char} (h : ¬ t <+: cs) : fieldsAt (.text t :: p) cs = none := by
  rw [fieldsAt_cons_text, if_neg fun ht => h (List.isPrefixOf_iff_prefix.1 ht)]

theorem stops_text {c : Char} {t : List Char} (h : inside c = false) : Stops (.text (c :: t) :: p) inside := by
  intro d cs hd
  refine fieldsAt_text_eq_none fun hpre => ?_
  rw [(List.cons_prefix_cons.1 hpre).1, hd] at h
  cases h

/-- Of several words the one that a text starts with is found. -/
theorem fieldsAt_word {choices : List (List Char)} {w : List Char} (hw : w ∈ choices)
    (hothers : ∀ w' ∈ choices, w' <+: w ++ cs → w' = w) :
    fieldsAt (.word choices :: p) (w ++ cs) = (p.fieldsAt cs).map (w :: ·) := by
  rw [fieldsAt_cons_word]
  induction choices with
  | nil => cases hw
  | cons w' choices ih =>
    obtain ⟨hother, hothers⟩ := List.forall_mem_cons.1 hothers
    by_cases heq : w' = w
    · rw [heq, List.findSome?_cons, if_pos (List.isPrefixOf_iff_prefix.2 (List.prefix_append w cs)), List.drop_left]
      cases h : p.fieldsAt cs with
      | some fields => rfl
      | none =>
        refine List.findSome?_eq_none_iff.2 fun w' hw' => ?_
        split
        · next hpre => rw [hothers w' hw' (List.isPrefixOf_iff_prefix.1 hpre), List.drop_left, h, Option.map_none]
        · rfl
    · have hnot : ¬ w'.isPrefixOf (w ++ cs) := fun hpre => heq (hother (List.isPrefixOf_iff_prefix.1 hpre))
      rw [List.findSome?_cons, if_neg hnot]
      exact ih ((List.mem_cons.1 hw).resolve_left (Ne.symm heq)) hothers

/-! ## What fits -/

theorem exists_of_fromLongest {α : Type} {f : Nat → Option α} {n : Nat} {a : α} (h : fromLongest least f n = some a) :
    ∃ k, least ≤ k ∧ k ≤ n ∧ f k = some a := by
  induction n with
  | zero =>
    rw [fromLongest] at h
    split at h
    · next hleast => exact ⟨0, Nat.le_of_eq hleast, Nat.le_refl 0, h⟩
    · cases h
  | succ n ih =>
    rw [fromLongest] at h
    split at h
    · cases h
    · next hleast =>
      split at h
      · next heq => exact ⟨n + 1, Nat.not_lt.1 hleast, Nat.le_refl _, heq.trans h⟩
      · obtain ⟨k, hk, hn, hf⟩ := ih h
        exact ⟨k, hk, Nat.le_succ_of_le hn, hf⟩

/-- A text starts with as many characters of a class as a run takes from it. -/
theorem mem_take_of_le {k : Nat} (hk : k ≤ (cs.takeWhile inside).length) :
    (∀ c ∈ cs.take k, inside c = true) ∧ (cs.take k).length = k := by
  have hlength : k ≤ cs.length := Nat.le_trans hk (List.takeWhile_prefix inside).length_le
  have htake : (cs.take k).length = k := List.length_take_of_le hlength
  have hpre : cs.take k <+: cs.takeWhile inside :=
    List.prefix_of_prefix_length_le (List.take_prefix k cs) (List.takeWhile_prefix inside) (htake.symm ▸ hk)
  exact ⟨fun c hc => List.all_eq_true.1 List.all_takeWhile c (hpre.subset hc), htake⟩

theorem exists_of_fieldsAt_run {fields : List (List Char)} (h : fieldsAt (.run least inside :: p) cs = some fields) :
    ∃ xs ys, cs = xs ++ ys ∧ (∀ c ∈ xs, inside c = true) ∧ least ≤ xs.length ∧ p.fieldsAt ys = some fields := by
  rw [fieldsAt_cons_run] at h
  obtain ⟨k, hleast, hk, hfields⟩ := exists_of_fromLongest h
  obtain ⟨hinside, hlength⟩ := mem_take_of_le hk
  exact ⟨cs.take k, cs.drop k, (List.take_append_drop k cs).symm, hinside, hlength.symm ▸ hleast, hfields⟩

theorem exists_of_fieldsAt_field {fields : List (List Char)} (h : fieldsAt (.field least inside :: p) cs = some fields) :
    ∃ xs ys rest, cs = xs ++ ys ∧ (∀ c ∈ xs, inside c = true) ∧ least ≤ xs.length ∧ fields = xs :: rest ∧
      p.fieldsAt ys = some rest := by
  rw [fieldsAt_cons_field] at h
  obtain ⟨k, hleast, hk, hfields⟩ := exists_of_fromLongest h
  obtain ⟨rest, hrest, rfl⟩ := Option.map_eq_some_iff.1 hfields
  obtain ⟨hinside, hlength⟩ := mem_take_of_le hk
  exact ⟨cs.take k, cs.drop k, rest, (List.take_append_drop k cs).symm, hinside, hlength.symm ▸ hleast, rfl, hrest⟩

theorem exists_of_fieldsAt_text {t : List Char} {fields : List (List Char)}
    (h : fieldsAt (.text t :: p) cs = some fields) : ∃ ys, cs = t ++ ys ∧ p.fieldsAt ys = some fields := by
  rw [fieldsAt_cons_text] at h
  split at h
  · next hpre =>
    obtain ⟨ys, rfl⟩ := List.isPrefixOf_iff_prefix.1 hpre
    rw [List.drop_left] at h
    exact ⟨ys, rfl, h⟩
  · cases h

/-! ## Searching -/

theorem find?_of_fieldsAt {fields : List (List Char)} (h : p.fieldsAt cs = some fields) : p.find? cs = some fields := by
  cases cs with
  | nil => rw [find?, h]
  | cons c cs => rw [find?, h]

/-- A pattern that starts with a fixed text is not found where this does not stand. -/
theorem find?_text_eq_none {t : List Char} (h : ¬ t <:+: cs) : find? (.text t :: p) cs = none := by
  induction cs with
  | nil => exact fieldsAt_text_eq_none fun hpre => h hpre.isInfix
  | cons c cs ih =>
    rw [find?, fieldsAt_text_eq_none fun hpre => h hpre.isInfix]
    exact ih fun hoccurs => h (hoccurs.trans (List.suffix_cons c cs).isInfix)

/-- What is found fits somewhere in the text. -/
theorem exists_of_find? {fields : List (List Char)} (h : p.find? cs = some fields) :
    ∃ xs ys, cs = xs ++ ys ∧ p.fieldsAt ys = some fields := by
  induction cs with
  | nil => exact ⟨[], [], rfl, h⟩
  | cons c cs ih =>
    rw [find?] at h
    split at h
    · next hfields => exact ⟨[], c :: cs, rfl, hfields.trans h⟩
    · obtain ⟨xs, ys, rfl, hys⟩ := ih h
      exact ⟨c :: xs, ys, rfl, hys⟩

/-- The pattern fits nowhere in a text with another one behind it. -/
def PassesOver (p : Pattern) (xs ys : List Char) : Prop :=
  ∀ suffix, suffix ≠ [] → suffix <:+ xs → p.fieldsAt (suffix ++ ys) = none

theorem PassesOver.find? (h : p.PassesOver xs ys) : p.find? (xs ++ ys) = p.find? ys := by
  induction xs with
  | nil => rfl
  | cons c xs ih =>
    rw [List.cons_append, Pattern.find?, ← List.cons_append, h _ (List.cons_ne_nil c xs) (List.suffix_refl _)]
    exact ih fun suffix hne hsuffix => h suffix hne (hsuffix.trans (List.suffix_cons c xs))

theorem PassesOver.append {zs : List Char} (h : p.PassesOver xs (ys ++ zs)) (h' : p.PassesOver ys zs) :
    p.PassesOver (xs ++ ys) zs := by
  intro suffix hne hsuffix
  obtain ⟨front, hfront⟩ := hsuffix
  rcases List.append_eq_append_iff.1 hfront with ⟨back, hxs, rfl⟩ | ⟨back, rfl, hys⟩
  · cases back with
    | nil => exact h' _ hne (List.suffix_refl _)
    | cons c back =>
      rw [List.append_assoc]
      exact h _ (List.cons_ne_nil c back) ⟨front, hxs.symm⟩
  · exact h' suffix hne ⟨back, hys.symm⟩

/-- A pattern that starts with a number fits nowhere in a text without digits. -/
theorem passesOver_of_no_digit (hxs : ∀ c ∈ xs, isDecimal c = false) :
    PassesOver (.run (least + 1) isDecimal :: p) xs ys := by
  intro suffix hne hsuffix
  cases suffix with
  | nil => exact absurd rfl hne
  | cons c suffix => exact fieldsAt_run_eq_none (startsOutside_cons.2 (hxs c (hsuffix.subset List.mem_cons_self)))

/-- A pattern that starts with a number and blanks fits nowhere in a word, unless the blanks and the rest of it fit
behind the word. -/
theorem passesOver_word (hxs : Solid xs) (hys : StartsOutside isDecimal ys)
    (hrest : fieldsAt (.run 1 isBlank :: p) ys = none) :
    PassesOver (.run 1 isDecimal :: .run 1 isBlank :: p) xs ys := by
  intro suffix _ hsuffix
  rw [fieldsAt_cons_run]
  refine fromLongest_eq_none fun k hk _ => ?_
  -- The run of digits ends in the word or with it, as no digit is behind it.
  have hlength : k ≤ suffix.length := by
    have hdigits : ((suffix ++ ys).takeWhile isDecimal).length ≤ suffix.length := by
      rw [List.takeWhile_append]
      split
      · cases ys with
        | nil => simp
        | cons c ys => simp [startsOutside_cons.1 hys]
      · exact (List.takeWhile_prefix isDecimal).length_le
    exact Nat.le_trans hk hdigits
  rcases Nat.lt_or_eq_of_le hlength with hlt | rfl
  · rw [List.drop_append_of_le_length hlength, List.drop_eq_getElem_cons hlt, List.cons_append]
    exact fieldsAt_run_eq_none (startsOutside_cons.2 (hxs _ (hsuffix.subset (List.getElem_mem hlt))))
  · rw [List.drop_left, hrest]

/-- Such a pattern does not fit in a word that ends in something else than a digit, whatever is behind it. -/
theorem passesOver_concat {c : Char} (hxs : Solid (xs ++ [c])) (hc : isDecimal c = false) :
    PassesOver (.run 1 isDecimal :: .run 1 isBlank :: p) (xs ++ [c]) ys := by
  obtain ⟨hxs, hblank⟩ := List.forall_mem_append.1 hxs
  refine PassesOver.append (passesOver_word hxs (startsOutside_cons.2 hc) ?_)
    (passesOver_of_no_digit (List.forall_mem_singleton.2 hc))
  exact fieldsAt_run_eq_none (startsOutside_cons.2 (hblank c List.mem_cons_self))

end Pattern

end SwitchFabric.Text
