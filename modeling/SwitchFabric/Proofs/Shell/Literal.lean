import SwitchFabric.Proofs.Delivery

/-!
# Lines in which nothing is expanded

The rules for quoting, without a reader: a word is inert characters, or a text between double quotes, and a literal
command is such words with blanks between them, of which the first is the path of a program. The reading of command
lines agrees with these rules (`LiteralCommand.parse_eq`), so that a literal command is the fields of one list only
(`LiteralCommand.unique`). The line of a login is a literal command, whatever is in the login and in what it runs
(`SshLogin.literal_commandLine`).
-/

namespace SwitchFabric

namespace Shell

/-! ## Words -/

/-- Nothing in the word is expanded: it is the characters of the text, and one field in every environment. -/
structure Word.StandsFor (w : Word) (text : String) : Prop where
  pieces : w.pieces = text.toList.map .char
  field (environment : Environment) (status : Nat) : fieldsOf environment status w = [text]

theorem Word.standsFor_ofText {text : String} {quoted : Bool} (h : quoted = true ∨ text.toList ≠ []) :
    (Word.ofText text.toList quoted).StandsFor text where
  pieces := rfl
  field environment status := by rw [fieldsOf_ofText h, String.ofList_toList]

theorem Word.StandsFor.unique {w : Word} {text text' : String} (h : w.StandsFor text) (h' : w.StandsFor text') :
    text = text' := by
  have hfields := h.field [] 0
  rw [h'.field [] 0] at hfields
  exact (List.singleton_inj.1 hfields).symm

/-- Outside of quotes, the character is no blank, operator or quote, and no part of an expansion, a file pattern or
a comment. -/
def isInert (c : Char) : Bool := c.isAlphanum || "%+,-./:=@_".toList.contains c

theorem isOrdinary_of_isInert {c : Char} (h : isInert c = true) : isOrdinary c = true := by
  cases hc : isOrdinary c with
  | true => rfl
  | false =>
    have hmem : c ∈ " \t\n;&|<>()".toList ++ "\x5c$\x22\x27\x60#".toList := by
      rw [isOrdinary, Bool.not_eq_false', Bool.or_eq_true] at hc
      exact List.mem_append.2 (hc.imp List.contains_iff_mem.1 List.contains_iff_mem.1)
    have hnone : (" \t\n;&|<>()".toList ++ "\x5c$\x22\x27\x60#".toList).all (!isInert ·) = true := by decide
    have hinert := List.all_eq_true.1 hnone c hmem
    rw [h] at hinert
    cases hinert

/-- A text as it is written on a command line, and the characters that it stands for. -/
inductive Literal : List Char → List Char → Prop where
  | bare {cs} (hne : cs ≠ []) (hcs : ∀ c ∈ cs, isInert c = true) : Literal cs cs
  | quoted {text cs} (h : DoubleQuoted text cs) : Literal ('\x22' :: text ++ ['\x22']) cs

theorem literal_quote (cs : List Char) : Literal (quote cs) (cs.filter (· != '\n')) :=
  .quoted (doubleQuoted_quoted cs)

/-! ## Commands -/

/-- The line is words with blanks between them that stand for the fields. The first is a path, and so neither an
assignment nor one of the words that mean something to the shell. -/
def LiteralCommand (line : List Char) (fields : List String) : Prop :=
  ∃ text texts, line = [' '].intercalate (text :: texts) ∧ '/' ∈ text ∧ '=' ∉ text ∧
    List.Forall₂ Literal (text :: texts) (fields.map String.toList)

theorem refusal_eq_none {w : Word} (h : ∀ s ∈ closingWords ++ openingWords, w.isPlain s = false) :
    w.refusal = none := by
  have hclosing : closingWords.find? w.isPlain = none :=
    List.find?_eq_none.2 fun s hs => by simp [h s (List.mem_append_left _ hs)]
  have hopening : openingWords.any w.isPlain = false :=
    List.any_eq_false.2 fun s hs => by simp [h s (List.mem_append_right _ hs)]
  rw [Word.refusal, hclosing, hopening]
  rfl

/-- A path is none of the words that mean something where a command starts. -/
theorem refusal_path {cs : List Char} (h : '/' ∈ cs) : (Word.ofText cs false).refusal = none := by
  refine refusal_eq_none fun s hs => ?_
  have hslash : ∀ s ∈ closingWords ++ openingWords, '/' ∉ s.toList := by decide
  have hne : cs ≠ s.toList := fun e => hslash s hs (e ▸ h)
  have hinjective : Function.Injective Piece.char := fun _ _ e => Piece.char.inj e
  simpa [Word.isPlain, Word.ofText] using fun e => hne (hinjective.list_map e)

theorem refusal_quoted (cs : List Char) : (Word.ofText cs true).refusal = none :=
  refusal_eq_none fun _ _ => rfl

/-- The shell reads a literal text as a word that stands for the characters. -/
theorem Literal.exists_word {text : List Char} {field : String} (h : Literal text field.toList) :
    ∃ w, Reads text w ∧ w.StandsFor field ∧ ('/' ∈ text → w.refusal = none) := by
  generalize hcs : field.toList = cs at h
  cases h with
  | bare hne hinert =>
    subst hcs
    exact ⟨_, reads_ordinary hne fun c hc => isOrdinary_of_isInert (hinert c hc),
      Word.standsFor_ofText (.inr hne), refusal_path⟩
  | quoted h =>
    subst hcs
    exact ⟨_, reads_doubleQuoted h, Word.standsFor_ofText (.inl rfl), fun _ => refusal_quoted _⟩

theorem exists_words {texts : List (List Char)} {fields : List String}
    (h : List.Forall₂ Literal texts (fields.map String.toList)) :
    ∃ ws, List.Forall₂ Reads texts ws ∧ List.Forall₂ Word.StandsFor ws fields := by
  induction fields generalizing texts with
  | nil =>
    cases h
    exact ⟨[], .nil, .nil⟩
  | cons field fields ih =>
    cases h with
    | cons hliteral hrest =>
      obtain ⟨w, hread, hfield, -⟩ := hliteral.exists_word
      obtain ⟨ws, hreads, hfields⟩ := ih hrest
      exact ⟨w :: ws, .cons hread hreads, .cons hfield hfields⟩

variable {line : List Char} {fields : List String}

/-- A literal command is read as one simple command without redirections, whose words stand for the fields. -/
theorem LiteralCommand.parse_eq (h : LiteralCommand line fields) :
    ∃ words, parse line = .ok [⟨.always, [⟨words, []⟩]⟩] ∧ List.Forall₂ Word.StandsFor words fields := by
  obtain ⟨text, texts, rfl, hpath, -, hliteral⟩ := h
  cases fields with
  | nil => cases hliteral
  | cons field fields =>
    cases hliteral with
    | cons hfirst hrest =>
      obtain ⟨w, hread, hfield, hrefusal⟩ := hfirst.exists_word
      obtain ⟨ws, hreads, hfields⟩ := exists_words hrest
      exact ⟨w :: ws, parse_of_reads (.cons hread hreads) (hrefusal hpath), .cons hfield hfields⟩

/-- The rules leave one reading of a line. -/
theorem LiteralCommand.unique {fields' : List String} (h : LiteralCommand line fields)
    (h' : LiteralCommand line fields') : fields = fields' := by
  obtain ⟨words, hparse, hfields⟩ := h.parse_eq
  obtain ⟨words', hparse', hfields'⟩ := h'.parse_eq
  obtain rfl : words = words' := by
    rw [hparse] at hparse'
    cases hparse'
    rfl
  have hunique : Relator.RightUnique Word.StandsFor := fun _ _ _ => Word.StandsFor.unique
  exact List.right_unique_forall₂' hunique hfields hfields'

/-! ## Characters of a line -/

theorem mem_intercalate {c : Char} (hc : c ≠ ' ') {texts : List (List Char)} :
    c ∈ [' '].intercalate texts ↔ ∃ text ∈ texts, c ∈ text := by
  induction texts with
  | nil => simp
  | cons text texts ih =>
    cases texts with
    | nil => simp
    | cons next texts =>
      rw [intercalate_blank, List.mem_append, List.mem_cons, ih, List.exists_mem_cons_iff]
      simp [hc]

theorem mem_quote {c : Char} (hc : needsBackslash c = false) {cs : List Char} : c ∈ quote cs ↔ c ∈ cs := by
  have hquote : c ≠ '\x22' := by
    rintro rfl
    exact absurd hc (by decide)
  have hslash : c ≠ '\x5c' := by
    rintro rfl
    exact absurd hc (by decide)
  have hchar (d : Char) : c ∈ quotedChar d ↔ c = d := by
    rw [quotedChar]
    split <;> simp [hslash]
  simp [quote, hchar, hquote]

end Shell

/-! ## Logins -/

namespace SshLogin

variable (l : SshLogin) (command : String)

/-- The words of a login as they are meant: the program with its options, the login and the command, the last two
without line feeds. -/
def words : List String :=
  (if l.password.isSome then ["/usr/bin/sshpass", "-e"] else []) ++
    ["/usr/bin/ssh", "-o", "StrictHostKeyChecking=no", "-o", "UserKnownHostsFile=/dev/null",
      String.ofList ((l.userid ++ "@" ++ l.host).toList.filter (· != '\n')),
      String.ofList (command.toList.filter (· != '\n'))]

theorem words_eq : l.words command =
    l.options ++ [(l.remoteRun command).login, (l.remoteRun command).command] := by
  simp [words, options, remoteRun, target, Machine.sshpassPath, Machine.sshPath]

theorem inert_options : ∀ o ∈ l.options, o.toList ≠ [] ∧ ∀ c ∈ o.toList, Shell.isInert c = true := by
  have hall : l.options.all (fun o => !o.toList.isEmpty && o.toList.all Shell.isInert) = true := by
    rw [options]
    cases l.password.isSome <;> decide
  intro o ho
  have hinert := List.all_eq_true.1 hall o ho
  rw [Bool.and_eq_true, List.all_eq_true, Bool.not_eq_true', List.isEmpty_eq_false_iff] at hinert
  exact hinert

/-- The line of a login is a literal command, whatever is in the login and in the command. -/
theorem literal_commandLine : Shell.LiteralCommand (l.commandLine command).toList (l.words command) := by
  refine ⟨l.program.toList, l.options.tail.map String.toList ++
    [Shell.quote l.target.toList, Shell.quote command.toList], ?_, ?_, ?_, ?_⟩
  · rw [toList_commandLine, Shell.joined, lexemes, options_eq]
    simp [Shell.Lexeme.text, Function.comp_def]
  · rw [program]
    cases l.password.isSome <;> decide
  · rw [program]
    cases l.password.isSome <;> decide
  · have hoptions : List.Forall₂ Shell.Literal (l.options.map String.toList) (l.options.map String.toList) := by
      rw [List.forall₂_same, List.forall_mem_map]
      exact fun o ho => .bare (l.inert_options o ho).1 (l.inert_options o ho).2
    rw [words_eq, List.map_append, ← List.cons_append, ← List.map_cons, ← options_eq]
    refine List.rel_append hoptions (.cons ?_ (.cons ?_ .nil))
    · rw [remoteRun, String.toList_ofList]
      exact Shell.literal_quote _
    · rw [remoteRun, String.toList_ofList]
      exact Shell.literal_quote _

theorem hasNul_commandLine :
    Shell.hasNul (l.commandLine command) = (Shell.hasNul l.userid || Shell.hasNul l.host || Shell.hasNul command) := by
  have hoptions : ∀ o ∈ l.options, '\x00' ∉ o.toList := by
    intro o ho hnul
    exact absurd ((l.inert_options o ho).2 _ hnul) (by decide)
  have hnul : Shell.needsBackslash '\x00' = false := by decide
  have hmem : '\x00' ∈ (l.commandLine command).toList ↔
      ('\x00' ∈ l.userid.toList ∨ '\x00' ∈ l.host.toList) ∨ '\x00' ∈ command.toList := by
    have htarget : '\x00' ∈ l.target.toList ↔ '\x00' ∈ l.userid.toList ∨ '\x00' ∈ l.host.toList := by
      simp [target]
    have hfront : ¬∃ o ∈ l.options, '\x00' ∈ o.toList := fun ⟨o, ho, h⟩ => hoptions o ho h
    rw [toList_commandLine, Shell.joined, Shell.mem_intercalate (by decide), lexemes, ← htarget]
    simp [Shell.Lexeme.text, Shell.mem_quote hnul, or_and_right, exists_or, hfront]
  rw [Bool.eq_iff_iff]
  simpa [Shell.hasNul] using hmem

/-- Nothing is injected into a login: whatever is in the user, the host and the command, the line is read as one
simple command without expansions and redirections, whose words are the program with its options, the login and the
command. Without a NUL in one of these there is none in the line. -/
theorem commandLine_injection_free :
    Shell.hasNul (l.commandLine command) = (Shell.hasNul l.userid || Shell.hasNul l.host || Shell.hasNul command) ∧
    (∀ fields, Shell.LiteralCommand (l.commandLine command).toList fields ↔ fields = l.words command) ∧
    ∃ words, Shell.parse (l.commandLine command).toList = .ok [⟨.always, [⟨words, []⟩]⟩] ∧
      List.Forall₂ Shell.Word.StandsFor words (l.words command) := by
  refine ⟨l.hasNul_commandLine command, fun fields => ⟨fun h => h.unique (l.literal_commandLine command), ?_⟩,
    (l.literal_commandLine command).parse_eq⟩
  rintro rfl
  exact l.literal_commandLine command

end SshLogin

end SwitchFabric
