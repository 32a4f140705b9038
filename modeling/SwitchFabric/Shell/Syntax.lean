import SwitchFabric.Shell.Quote

/-!
# Reading command lines

A command line as the shell reads it: pipelines of simple commands, whose words are characters and
references to variables, and whose outputs can be redirected. Command substitution, control structures,
groups and background jobs are not part of this reading; a line with one of them is refused. A file pattern
stands for itself, as it does where it matches no file.
-/

namespace SwitchFabric.Shell

/-- Why a command line cannot be read. -/
inductive SyntaxError where
  | unterminatedQuote
  | unexpected (token : String)
  | unexpectedEnd
  /-- It holds something that is not part of this reading. -/
  | unsupported
  deriving DecidableEq

/-- What the shell prints behind its own name. -/
def SyntaxError.message : SyntaxError → String
  | unterminatedQuote => "Syntax error: Unterminated quoted string"
  | unexpected token => "Syntax error: \"" ++ token ++ "\" unexpected"
  | unexpectedEnd => "Syntax error: end of file unexpected"
  | unsupported => "Syntax error"

/-- Part of a word. -/
inductive Piece where
  | char (c : Char)
  /-- A variable, whose value is split into words unless it is quoted. -/
  | variable (quoted : Bool) (name : String)
  deriving DecidableEq

/-- A word. With quotes in it, it stands for a word even if nothing is in it. -/
structure Word where
  pieces : List Piece
  quoted : Bool
  deriving DecidableEq

/-- What a command line consists of. -/
inductive Token where
  | word (w : Word)
  /-- The end of a command: a semicolon or a line feed. -/
  | stop (semicolon : Bool)
  | andIf
  | orIf
  | pipe
  /-- One of the outputs is sent to a file. -/
  | toFile (output : Nat) (append : Bool)
  /-- One of the outputs goes where another goes. -/
  | toOutput (output target : Nat)
  /-- From here on the line cannot be read. -/
  | bad (e : SyntaxError)
  deriving DecidableEq

/-! ## Words -/

/-- A name does not start with a digit. -/
def isNameStart (c : Char) : Bool := c.isAlpha || c == '_'

/-- What can stand in the name of a variable. -/
def isNameChar (c : Char) : Bool := c.isAlphanum || c == '_'

/-- The variable whose reference goes on after a dollar sign, and the text behind it. A dollar sign
that starts no reference has no name. -/
def reference (cs : List Char) : Except SyntaxError (Option String × List Char) :=
  match cs with
  | '(' :: _ => .error .unsupported
  | '\x7b' :: rest =>
    let name := rest.takeWhile isNameChar
    match rest.drop name.length with
    | '\x7d' :: after =>
      if name.isEmpty then .error .unsupported else .ok (some (String.ofList name), after)
    | _ => .error .unsupported
  | c :: rest =>
    if isNameStart c then
      let name := c :: rest.takeWhile isNameChar
      .ok (some (String.ofList name), cs.drop name.length)
    else if c == '$' || c == '?' || c.isDigit then .ok (some (String.ofList [c]), rest)
    else .ok (none, cs)
  | [] => .ok (none, [])

/-- The pieces up to the closing double quote, and the text behind it. -/
def inDoubleQuotes : Nat → List Char → Except SyntaxError (List Piece × List Char)
  | 0, _ => .error .unterminatedQuote
  | fuel + 1, cs =>
    let more (ps : List Piece) (rest : List Char) : Except SyntaxError (List Piece × List Char) :=
      (inDoubleQuotes fuel rest).map fun (qs, after) => (ps ++ qs, after)
    match cs with
    | [] => .error .unterminatedQuote
    | '\x5c' :: '\n' :: rest => more [] rest
    | '\x5c' :: c :: rest =>
      if needsBackslash c then more [.char c] rest else more [.char '\x5c', .char c] rest
    | '$' :: rest => do
      let (name, rest) ← reference rest
      match name with
      | some name => more [.variable true name] rest
      | none => more [.char '$'] rest
    | c :: rest =>
      if c == '\x22' then .ok ([], rest)
      else if c == '\x60' then .error .unsupported
      else more [.char c] rest

/-- The characters up to the closing single quote, and the text behind it. -/
def inSingleQuotes : List Char → Except SyntaxError (List Piece × List Char)
  | [] => .error .unterminatedQuote
  | c :: cs =>
    if c == '\x27' then .ok ([], cs)
    else (inSingleQuotes cs).map fun (ps, after) => (.char c :: ps, after)

/-- Characters that end a word. -/
def endsWord (c : Char) : Bool := " \t\n;&|<>()".toList.contains c

/-- The word at the start of a text, and the text behind it. -/
def wordAt : Nat → List Char → Except SyntaxError (Word × List Char)
  | 0, cs => .ok (⟨[], false⟩, cs)
  | fuel + 1, cs =>
    let more (ps : List Piece) (quoted : Bool) (rest : List Char) :
        Except SyntaxError (Word × List Char) :=
      (wordAt fuel rest).map fun (w, after) => (⟨ps ++ w.pieces, quoted || w.quoted⟩, after)
    match cs with
    | [] => .ok (⟨[], false⟩, [])
    | '\x5c' :: '\n' :: rest => more [] false rest
    | '\x5c' :: c :: rest => more [.char c] true rest
    | '$' :: rest => do
      let (name, rest) ← reference rest
      match name with
      | some name => more [.variable false name] false rest
      | none => more [.char '$'] false rest
    | c :: rest =>
      if endsWord c then .ok (⟨[], false⟩, cs)
      else if c == '\x22' then do
        let (ps, rest) ← inDoubleQuotes (rest.length + 1) rest
        more ps true rest
      else if c == '\x27' then do
        let (ps, rest) ← inSingleQuotes rest
        more ps true rest
      else if c == '\x60' then .error .unsupported
      else more [.char c] false rest

/-! ## Tokens -/

/-- The redirection of an output behind its arrow, and the text behind it. -/
def redirection (output : Nat) : List Char → Token × List Char
  | '>' :: rest => (.toFile output true, rest)
  | '&' :: '1' :: rest => (.toOutput output 1, rest)
  | '&' :: '2' :: rest => (.toOutput output 2, rest)
  | '&' :: rest => (.bad .unsupported, rest)
  | rest => (.toFile output false, rest)

/-- The tokens of a command line. -/
def tokens : Nat → List Char → List Token
  | 0, _ => []
  | fuel + 1, cs =>
    let more : Token × List Char → List Token := fun (t, rest) => t :: tokens fuel rest
    match cs with
    | [] => []
    | '\x5c' :: '\n' :: rest => tokens fuel rest
    | '&' :: '&' :: rest => more (.andIf, rest)
    | '|' :: '|' :: rest => more (.orIf, rest)
    | ';' :: ';' :: rest => more (.bad (.unexpected ";;"), rest)
    | '1' :: '>' :: rest => more (redirection 1 rest)
    | '2' :: '>' :: rest => more (redirection 2 rest)
    | c :: rest =>
      if c == ' ' || c == '\t' then tokens fuel rest
      else if c == '\n' then more (.stop false, rest)
      else if c == ';' then more (.stop true, rest)
      else if c == '|' then more (.pipe, rest)
      else if c == '>' then more (redirection 1 rest)
      else if c == '#' then tokens fuel (rest.dropWhile (· != '\n'))
      else if c == ')' then more (.bad (.unexpected ")"), rest)
      else if endsWord c then more (.bad .unsupported, rest)
      else
        match wordAt (cs.length + 1) cs with
        | .ok (w, rest) => more (.word w, rest)
        | .error e => [.bad e]

/-! ## Commands -/

/-- Where an output goes. -/
inductive Target where
  | file (name : Word) (append : Bool)
  | output (number : Nat)
  deriving DecidableEq

/-- Where one of the outputs of a command goes instead. -/
structure Redirect where
  output : Nat
  target : Target
  deriving DecidableEq

/-- A simple command: its words, of which the first names the program, and its redirections. -/
structure Command where
  words : List Word
  redirects : List Redirect
  deriving DecidableEq

/-- When a pipeline is run, seen from the one before it. -/
inductive Condition where
  | always
  | onSuccess
  | onFailure
  deriving DecidableEq

/-- Commands that each read what the one before it writes. -/
structure Pipeline where
  condition : Condition
  commands : List Command
  deriving DecidableEq

/-- What has been read of the last pipeline: its condition, its commands but the last, and the last. -/
structure Partial where
  condition : Condition
  commands : List Command
  command : Command

namespace Partial

/-- Only the condition is known. -/
def start (condition : Condition) : Partial := ⟨condition, [], ⟨[], []⟩⟩

/-- Nothing has been read yet. -/
def isEmpty (p : Partial) : Bool :=
  p.commands.isEmpty && p.command.words.isEmpty && p.command.redirects.isEmpty

/-- The pipeline, if its last command has something in it. -/
def finish (p : Partial) : Option Pipeline :=
  if p.command.words.isEmpty && p.command.redirects.isEmpty then none
  else some ⟨p.condition, p.commands ++ [p.command]⟩

/-- The word belongs to the last command. -/
def addWord (w : Word) (p : Partial) : Partial :=
  { p with command := { p.command with words := p.command.words ++ [w] } }

/-- The redirection belongs to the last command, wherever it stands among the words. -/
def addRedirect (r : Redirect) (p : Partial) : Partial :=
  { p with command := { p.command with redirects := p.command.redirects ++ [r] } }

end Partial

/-- Words that, where a command could start, start a control structure or a group. -/
def openingWords : List String := ["!", "\x7b", "case", "for", "if", "until", "while"]

/-- Words that go on with a control structure or a group, or end it. -/
def closingWords : List String := ["\x7d", "do", "done", "elif", "else", "esac", "fi", "then"]

/-- The word holds nothing but the characters of a text, none of them quoted. -/
def Word.isPlain (w : Word) (s : String) : Bool := !w.quoted && w.pieces == s.toList.map .char

/-- Why a command cannot start with the word. -/
def Word.refusal (w : Word) : Option SyntaxError :=
  match closingWords.find? w.isPlain with
  | some closing => some (.unexpected closing)
  | none => if openingWords.any w.isPlain then some .unsupported else none

/-- A token as a message shows it, where it cannot stand. -/
def Token.refusal : Token → SyntaxError
  | stop false => .unsupported
  | stop true => .unexpected ";"
  | andIf => .unexpected "&&"
  | orIf => .unexpected "||"
  | pipe => .unexpected "|"
  | bad e => e
  | word _ | toFile .. | toOutput .. => .unsupported

/-- The pipelines that tokens make up, after the ones read so far. A line feed where a command could
start says nothing. -/
def pipelinesFrom (p : Partial) : List Token → Except SyntaxError (List Pipeline)
  | [] =>
    match p.finish with
    | some done => .ok [done]
    | none => if p.isEmpty && p.condition == .always then .ok [] else .error .unexpectedEnd
  | .word w :: ts =>
    match if p.command.words.isEmpty then w.refusal else none with
    | some e => .error e
    | none => pipelinesFrom (p.addWord w) ts
  | .toOutput n m :: ts => pipelinesFrom (p.addRedirect ⟨n, .output m⟩) ts
  | .toFile n append :: .word w :: ts => pipelinesFrom (p.addRedirect ⟨n, .file w append⟩) ts
  | .toFile _ _ :: t :: _ => .error t.refusal
  | [.toFile _ _] => .error .unexpectedEnd
  | .bad e :: _ => .error e
  | .pipe :: ts =>
    match p.finish with
    | some done => pipelinesFrom ⟨p.condition, done.commands, ⟨[], []⟩⟩ ts
    | none => .error Token.pipe.refusal
  | .stop semicolon :: ts =>
    match p.finish with
    | some done => (pipelinesFrom (.start .always) ts).map (done :: ·)
    | none => if semicolon then .error (Token.stop true).refusal else pipelinesFrom p ts
  | .andIf :: ts =>
    match p.finish with
    | some done => (pipelinesFrom (.start .onSuccess) ts).map (done :: ·)
    | none => .error Token.andIf.refusal
  | .orIf :: ts =>
    match p.finish with
    | some done => (pipelinesFrom (.start .onFailure) ts).map (done :: ·)
    | none => .error Token.orIf.refusal

/-- A command line as the shell reads it. -/
def parse (line : List Char) : Except SyntaxError (List Pipeline) :=
  pipelinesFrom (.start .always) (tokens (line.length + 1) line)

end SwitchFabric.Shell
