import Mathlib.Data.List.Forall2
import SwitchFabric.Shell.Run

/-!
# Command lines of plain and of quoted words

A text of ordinary characters is a word that stands for itself (`reads_ordinary`). What a text between double quotes
stands for is a relation of its own (`DoubleQuoted`), which the reader follows (`reads_doubleQuoted`); a quoted text
stands for the text without its line feeds (`doubleQuoted_quoted`), as the shell takes a backslash and a line feed
out. Words with blanks between them are one command (`parse_of_reads`, `splits_joined`), so that what is quoted can
not run into its neighbours, and running the line runs the program that the first word names with the other words
(`run_of_splits`).
-/

namespace SwitchFabric.Shell

/-- The word of an unquoted or a quoted text. -/
def Word.ofText (cs : List Char) (quoted : Bool) : Word := ⟨cs.map .char, quoted⟩

/-- A character that stands for itself outside of quotes. -/
def isOrdinary (c : Char) : Bool := !(endsWord c || "\x5c$\x22\x27\x60#".toList.contains c)

/-- A blank or the end of the line. -/
def EndsHere (rest : List Char) : Prop := rest = [] ∨ ∃ after, rest = ' ' :: after

/-- Where the text stands before a blank or at the end, the shell reads it as the word. -/
def Reads (text : List Char) (w : Word) : Prop :=
  ∀ fuel rest, EndsHere rest → tokens (fuel + 1) (text ++ rest) = .word w :: tokens fuel rest

theorem Reads.ne_nil {text : List Char} {w : Word} (h : Reads text w) : text ≠ [] := by
  rintro rfl
  have hnil := h 0 [] (.inl rfl)
  simp [tokens] at hnil

theorem wordAt_of_endsHere {rest : List Char} (h : EndsHere rest) (fuel : Nat) :
    wordAt fuel rest = .ok (⟨[], false⟩, rest) := by
  cases fuel with
  | zero => rfl
  | succ fuel =>
    rcases h with rfl | ⟨after, rfl⟩
    · rfl
    · rfl

/-! ## Ordinary characters -/

theorem ne_of_isOrdinary {c d : Char} (h : isOrdinary c = true) (hd : isOrdinary d = false) : c ≠ d := by
  rintro rfl
  simp [hd] at h

theorem wordAt_ordinary {c : Char} (h : isOrdinary c = true) (fuel : Nat) (rest : List Char) :
    wordAt (fuel + 1) (c :: rest) = (wordAt fuel rest).map fun (w, after) => (⟨.char c :: w.pieces, w.quoted⟩, after) := by
  have hends : endsWord c = false := by simp_all [isOrdinary]
  have hdollar : c ≠ '$' := ne_of_isOrdinary h (by decide)
  have hslash : c ≠ '\x5c' := ne_of_isOrdinary h (by decide)
  have hdouble : c ≠ '\x22' := ne_of_isOrdinary h (by decide)
  have hsingle : c ≠ '\x27' := ne_of_isOrdinary h (by decide)
  have hback : c ≠ '\x60' := ne_of_isOrdinary h (by decide)
  rw [wordAt]
  · simp [hends, hdouble, hsingle, hback]
  · exact fun _ e _ => hslash e
  · exact fun _ _ e _ => hslash e
  · exact hdollar

theorem wordAt_text {cs rest : List Char} (hcs : ∀ c ∈ cs, isOrdinary c = true) (h : EndsHere rest) {fuel : Nat}
    (hfuel : cs.length ≤ fuel) : wordAt fuel (cs ++ rest) = .ok (.ofText cs false, rest) := by
  induction cs generalizing fuel with
  | nil => exact wordAt_of_endsHere h fuel
  | cons c cs ih =>
    obtain ⟨hc, hcs⟩ := List.forall_mem_cons.1 hcs
    cases fuel with
    | zero => simp at hfuel
    | succ fuel =>
      rw [List.cons_append, wordAt_ordinary hc, ih hcs (by simpa using hfuel)]
      rfl

/-- Where a word starts, the shell reads a word. -/
theorem tokens_of_wordAt {c : Char} {cs : List Char} (hc : isOrdinary c = true ∧ cs.head? ≠ some '>' ∨ c = '\x22')
    {w : Word} {rest : List Char} (h : wordAt (cs.length + 2) (c :: cs) = .ok (w, rest)) (fuel : Nat) :
    tokens (fuel + 1) (c :: cs) = .word w :: tokens fuel rest := by
  have hne : ∀ d : Char, isOrdinary d = false → d ≠ '\x22' → c ≠ d := by
    rintro d hd hquote rfl
    rcases hc with ⟨hc, -⟩ | rfl
    · simp [hd] at hc
    · exact hquote rfl
  have hends : endsWord c = false := by
    rcases hc with ⟨hc, -⟩ | rfl
    · simp_all [isOrdinary]
    · rfl
  have harrow : ∀ d after, c = d → d ≠ '\x22' → cs ≠ '>' :: after := by
    rintro d after rfl hquote rfl
    rcases hc with ⟨-, hhead⟩ | hc
    · exact hhead rfl
    · exact hquote hc
  have hfirst : c ≠ ' ' ∧ c ≠ '\t' ∧ c ≠ '\n' ∧ c ≠ ';' ∧ c ≠ '|' ∧ c ≠ '>' ∧ c ≠ '#' ∧ c ≠ ')' := by
    refine ⟨?_, ?_, ?_, ?_, ?_, ?_, ?_, ?_⟩ <;> exact hne _ (by decide) (by decide)
  obtain ⟨hblank, htab, hfeed, hsemicolon, hpipe, hgreater, hhash, hclose⟩ := hfirst
  -- none of the cases for blanks, operators and comments is the one that applies
  rw [tokens]
  · simp [hends, hblank, htab, hfeed, hsemicolon, hpipe, hgreater, hhash, hclose, h]
  · exact fun _ e _ => hne _ (by decide) (by decide) e
  · exact fun _ e _ => hne _ (by decide) (by decide) e
  · exact fun _ e _ => hpipe e
  · exact fun _ e _ => hsemicolon e
  · exact fun _ e e' => harrow _ _ e (by decide) e'
  · exact fun _ e e' => harrow _ _ e (by decide) e'

theorem reads_ordinary {cs : List Char} (hne : cs ≠ []) (hcs : ∀ c ∈ cs, isOrdinary c = true) :
    Reads cs (.ofText cs false) := by
  intro fuel rest h
  obtain ⟨c, cs, rfl⟩ := List.exists_cons_of_ne_nil hne
  have hword := wordAt_text hcs h (show (c :: cs).length ≤ (cs ++ rest).length + 2 by simp; omega)
  refine tokens_of_wordAt (.inl ⟨hcs c List.mem_cons_self, ?_⟩) hword fuel
  cases cs with
  | nil => rcases h with rfl | ⟨after, rfl⟩ <;> simp
  | cons d cs =>
    have hd : d ≠ '>' := ne_of_isOrdinary (hcs d (by simp)) (by decide)
    simpa using hd

/-! ## Quoted texts -/

/-- Between double quotes, the character starts an expansion, ends the quotes or is a quote itself. -/
def isActive (c : Char) : Bool := "$\x60\x22\x5c".toList.contains c

theorem needsBackslash_eq (c : Char) : needsBackslash c = (isActive c || c == '\n') := by
  have hbeq (d : Char) : decide (c = d) = (c == d) := rfl
  simp [needsBackslash, isActive, Bool.or_assoc, hbeq]

theorem ne_of_isActive {c d : Char} (h : isActive c = false) (hd : isActive d = true) : c ≠ d := by
  rintro rfl
  simp [hd] at h

/-- A text between double quotes, and the characters that it stands for. A backslash quotes an active character, is
taken out together with a line feed, and stands for itself before anything else. -/
inductive DoubleQuoted : List Char → List Char → Prop where
  | nil : DoubleQuoted [] []
  | plain {c text cs} (hc : isActive c = false) (h : DoubleQuoted text cs) : DoubleQuoted (c :: text) (c :: cs)
  | escaped {c text cs} (hc : isActive c = true) (h : DoubleQuoted text cs) :
    DoubleQuoted ('\x5c' :: c :: text) (c :: cs)
  | continued {text cs} (h : DoubleQuoted text cs) : DoubleQuoted ('\x5c' :: '\n' :: text) cs
  | backslash {c text cs} (hc : isActive c = false) (hfeed : c ≠ '\n') (h : DoubleQuoted text cs) :
    DoubleQuoted ('\x5c' :: c :: text) ('\x5c' :: c :: cs)

theorem inDoubleQuotes_plain {c : Char} (hc : isActive c = false) (fuel : Nat) (rest : List Char) :
    inDoubleQuotes (fuel + 1) (c :: rest) = (inDoubleQuotes fuel rest).map fun (ps, after) => (.char c :: ps, after) := by
  have hdollar : c ≠ '$' := ne_of_isActive hc (by decide)
  have hback : c ≠ '\x60' := ne_of_isActive hc (by decide)
  have hquote : c ≠ '\x22' := ne_of_isActive hc (by decide)
  have hslash : c ≠ '\x5c' := ne_of_isActive hc (by decide)
  rw [inDoubleQuotes]
  · simp [hback, hquote]
  · exact fun _ e _ => hslash e
  · exact fun _ _ e _ => hslash e
  · exact hdollar

/-- Inside double quotes, a text stands for what it was before it was quoted, but for line feeds. -/
theorem doubleQuoted_quoted (cs : List Char) : DoubleQuoted (cs.flatMap quotedChar) (cs.filter (· != '\n')) := by
  induction cs with
  | nil => exact .nil
  | cons c cs ih =>
    rw [List.flatMap_cons, quotedChar, needsBackslash_eq]
    by_cases hfeed : c = '\n'
    · subst hfeed
      exact .continued ih
    · have hkept : (c :: cs).filter (· != '\n') = c :: cs.filter (· != '\n') := by simp [hfeed]
      have hsame : (isActive c || c == '\n') = isActive c := by simp [hfeed]
      rw [hkept, hsame]
      cases hc : isActive c with
      | true => exact .escaped hc ih
      | false => exact .plain hc ih

theorem exists_fuel {n fuel : Nat} (h : n + 1 < fuel) : ∃ more, fuel = more + 1 ∧ n < more :=
  ⟨fuel - 1, by omega, by omega⟩

/-- The shell reads a text between double quotes as the characters that it stands for, up to the closing quote. -/
theorem inDoubleQuotes_of_doubleQuoted {text cs : List Char} (h : DoubleQuoted text cs) (rest : List Char) {fuel : Nat}
    (hfuel : text.length < fuel) : inDoubleQuotes fuel (text ++ '\x22' :: rest) = .ok (cs.map .char, rest) := by
  induction h generalizing fuel with
  | nil =>
    cases fuel with
    | zero => cases hfuel
    | succ fuel => rfl
  | plain hc h ih =>
    obtain ⟨fuel, rfl, hlt⟩ := exists_fuel hfuel
    rw [List.cons_append, inDoubleQuotes_plain hc, ih hlt]
    rfl
  | @escaped c text cs hc h ih =>
    obtain ⟨fuel, rfl, hlt⟩ := exists_fuel hfuel
    -- the case for a backslash and a line feed is not the one that applies
    have hfeed : c ≠ '\n' := by
      rintro rfl
      exact absurd hc (by decide)
    simp [inDoubleQuotes, needsBackslash_eq, hc, ih (Nat.lt_of_succ_lt hlt), Except.map]
  | continued h ih =>
    obtain ⟨fuel, rfl, hlt⟩ := exists_fuel hfuel
    simp [inDoubleQuotes, ih (Nat.lt_of_succ_lt hlt), Except.map]
  | backslash hc hfeed h ih =>
    obtain ⟨fuel, rfl, hlt⟩ := exists_fuel hfuel
    simp [inDoubleQuotes, needsBackslash_eq, hc, hfeed, ih (Nat.lt_of_succ_lt hlt), Except.map]

theorem reads_doubleQuoted {text cs : List Char} (h : DoubleQuoted text cs) :
    Reads ('\x22' :: text ++ ['\x22']) (.ofText cs true) := by
  intro fuel rest hrest
  have hinside : inDoubleQuotes ((text ++ '\x22' :: rest).length + 1) (text ++ '\x22' :: rest) =
      .ok (cs.map .char, rest) := by
    refine inDoubleQuotes_of_doubleQuoted h rest ?_
    rw [List.length_append]
    omega
  have hword : '\x22' :: text ++ ['\x22'] ++ rest = '\x22' :: (text ++ '\x22' :: rest) := by simp
  rw [hword]
  generalize text ++ '\x22' :: rest = body at hinside
  refine tokens_of_wordAt (.inr rfl) ?_ fuel
  rw [wordAt]
  · simp [endsWord, hinside, wordAt_of_endsHere hrest, Word.ofText, Except.map, bind, Except.bind]
  · exact fun _ e _ => absurd e (by decide)
  · exact fun _ _ e _ => absurd e (by decide)
  · exact fun e => absurd e (by decide)

theorem reads_quote (cs : List Char) : Reads (quote cs) (.ofText (cs.filter (· != '\n')) true) :=
  reads_doubleQuoted (doubleQuoted_quoted cs)

/-! ## Fields -/

theorem foldl_add (cs : List Char) (f : Fields) :
    cs.foldl (fun f c => f.add c) f = ⟨f.done, f.current ++ cs, f.started || !cs.isEmpty⟩ := by
  induction cs generalizing f with
  | nil => simp
  | cons c cs ih =>
    rw [List.foldl_cons, ih]
    simp [Fields.add]

/-- A word without variables stands for itself, unless nothing is in it. -/
theorem fieldsOf_ofText {cs : List Char} {quoted : Bool} (h : quoted = true ∨ cs ≠ []) (environment : Environment)
    (status : Nat) : fieldsOf environment status (.ofText cs quoted) = [String.ofList cs] := by
  have hfold := foldl_add cs ⟨[], [], quoted⟩
  have hstarted : (quoted || !cs.isEmpty) = true := by
    rcases h with rfl | h
    · rfl
    · simp [h]
  rw [fieldsOf, Word.ofText, List.foldl_map, hfold, hstarted]
  rfl

/-! ## Commands -/

/-- A word as it is written on a command line. -/
inductive Lexeme where
  | ordinary (cs : List Char)
  | quoted (cs : List Char)

namespace Lexeme

/-- What stands on the line. -/
def text : Lexeme → List Char
  | ordinary cs => cs
  | quoted cs => quote cs

/-- What the shell reads it as. -/
def word : Lexeme → Word
  | ordinary cs => .ofText cs false
  | quoted cs => .ofText (cs.filter (· != '\n')) true

/-- What the program gets. A quoted text loses its line feeds. -/
def field : Lexeme → String
  | ordinary cs => String.ofList cs
  | quoted cs => String.ofList (cs.filter (· != '\n'))

/-- It is quoted, or has ordinary characters only and at least one. -/
def WellFormed : Lexeme → Prop
  | ordinary cs => cs ≠ [] ∧ ∀ c ∈ cs, isOrdinary c = true
  | quoted _ => True

instance (x : Lexeme) : Decidable x.WellFormed :=
  match x with
  | ordinary cs => @instDecidableAnd _ _ inferInstance (List.decidableBAll (isOrdinary · = true) cs)
  | quoted _ => inferInstanceAs (Decidable True)

theorem reads {x : Lexeme} (h : x.WellFormed) : Reads x.text x.word := by
  cases x with
  | ordinary cs => exact reads_ordinary h.1 h.2
  | quoted cs => exact reads_quote cs

theorem fieldsOf_word {x : Lexeme} (h : x.WellFormed) (environment : Environment) (status : Nat) :
    fieldsOf environment status x.word = [x.field] := by
  cases x with
  | ordinary cs => exact fieldsOf_ofText (.inr h.1) environment status
  | quoted cs => exact fieldsOf_ofText (.inl rfl) environment status

end Lexeme

/-- Words with blanks between them. -/
def joined (xs : List Lexeme) : List Char := [' '].intercalate (xs.map Lexeme.text)

theorem intercalate_blank (text next : List Char) (texts : List (List Char)) :
    [' '].intercalate (text :: next :: texts) = text ++ ' ' :: [' '].intercalate (next :: texts) := by
  rw [List.intercalate_cons_cons, List.append_assoc, List.singleton_append]

/-- The shell reads the words of a line one after the other. -/
theorem tokens_intercalate {texts : List (List Char)} {ws : List Word} (h : List.Forall₂ Reads texts ws) {fuel : Nat}
    (hfuel : ([' '].intercalate texts).length < fuel) : tokens fuel ([' '].intercalate texts) = ws.map .word := by
  induction h generalizing fuel with
  | nil =>
    cases fuel with
    | zero => cases hfuel
    | succ fuel => rfl
  | @cons text w texts ws hread hreads ih =>
    have hlength := List.length_pos_iff.2 hread.ne_nil
    cases hreads with
    | nil =>
      rw [List.intercalate_singleton] at hfuel ⊢
      obtain ⟨fuel, rfl⟩ : ∃ n, fuel = n + 2 := ⟨fuel - 2, by omega⟩
      have hend := hread (fuel + 1) [] (.inl rfl)
      rw [List.append_nil] at hend
      rw [hend]
      rfl
    | @cons next _ texts _ _ _ =>
      rw [intercalate_blank, List.length_append, List.length_cons] at hfuel
      obtain ⟨fuel, rfl⟩ : ∃ n, fuel = n + 2 := ⟨fuel - 2, by omega⟩
      have hblank : tokens (fuel + 1) (' ' :: [' '].intercalate (next :: texts)) =
          tokens fuel ([' '].intercalate (next :: texts)) := by
        simp [tokens]
      rw [intercalate_blank, hread _ _ (.inr ⟨_, rfl⟩), hblank, ih (by omega)]
      rfl

/-- Words behind the first of a command belong to it. -/
theorem pipelinesFrom_words (ws : List Word) {w : Word} (hw : w.refusal = none) :
    pipelinesFrom (.start .always) ((w :: ws).map .word) = .ok [⟨.always, [⟨w :: ws, []⟩]⟩] := by
  have hmore : ∀ (ws read : List Word), read ≠ [] →
      pipelinesFrom ⟨.always, [], ⟨read, []⟩⟩ (ws.map .word) = .ok [⟨.always, [⟨read ++ ws, []⟩]⟩] := by
    intro ws
    induction ws with
    | nil =>
      intro read hread
      simp [pipelinesFrom, Partial.finish, hread]
    | cons v ws ih =>
      intro read hread
      have hstep := ih (read ++ [v]) (by simp)
      simpa [pipelinesFrom, hread, Partial.addWord] using hstep
  rw [List.map_cons, pipelinesFrom]
  simpa [Partial.start, Partial.addWord, hw] using hmore ws [w] (by simp)

/-- Words with blanks between them are one command. -/
theorem parse_of_reads {text : List Char} {texts : List (List Char)} {w : Word} {ws : List Word}
    (h : List.Forall₂ Reads (text :: texts) (w :: ws)) (hw : w.refusal = none) :
    parse ([' '].intercalate (text :: texts)) = .ok [⟨.always, [⟨w :: ws, []⟩]⟩] := by
  rw [parse, tokens_intercalate h (Nat.lt_succ_self _)]
  exact pipelinesFrom_words ws hw

/-- The line is one command, whose words stand for one field each, whatever the environment. -/
def Splits (line : List Char) (fields : List String) : Prop :=
  ∃ words, parse line = .ok [⟨.always, [⟨words, []⟩]⟩] ∧
    ∀ environment status, words.map (fieldsOf environment status) = fields.map ([·])

theorem splits_joined {x : Lexeme} {xs : List Lexeme} (h : ∀ y ∈ x :: xs, y.WellFormed)
    (hx : x.word.refusal = none) : Splits (joined (x :: xs)) ((x :: xs).map Lexeme.field) := by
  refine ⟨(x :: xs).map Lexeme.word, ?_, fun environment status => ?_⟩
  · have hreads : List.Forall₂ Reads ((x :: xs).map Lexeme.text) ((x :: xs).map Lexeme.word) :=
      List.forall₂_map_left_iff.2 (List.forall₂_map_right_iff.2
        (List.forall₂_same.2 fun y hy => Lexeme.reads (h y hy)))
    exact parse_of_reads hreads hx
  · rw [List.map_map, List.map_map]
    exact List.map_congr_left fun y hy => Lexeme.fieldsOf_word (h y hy) environment status

/-! ## Running a command -/

variable {ω : Type} {programs : Programs ω}

theorem redirect_nil (o : Output) : o.redirect [] = o := by simp [Output.redirect]

/-- Running a command line of a program runs the program, once, with the other fields. -/
theorem run_of_splits {line : List Char} {name : String} {arguments : List String}
    (h : Splits line (name :: arguments)) {program : Program ω} (hprogram : programs name = some program)
    (hexit : name ≠ "exit") (hkill : name ≠ "kill") (environment : Environment) (s : ω) :
    run programs environment line s =
      let (o, s') := program arguments environment [] s
      (o.out, o.err, .exited o.code, s') := by
  obtain ⟨words, hparse, hfields⟩ := h
  have hwords : words.flatMap (fieldsOf environment 0) = name :: arguments := by
    rw [List.flatMap_def, hfields, ← List.flatMap_def]
    simp
  rw [run, hparse]
  simp [runPipelines, Condition.holds, runPiped, runCommand, hwords, runProgram, hexit, hkill, hprogram, redirect_nil]

end SwitchFabric.Shell
