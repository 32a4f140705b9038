import SwitchFabric.Yaml.Block
import SwitchFabric.Yaml.Plain
import SwitchFabric.Yaml.Token

/-!
# The tokens of a document

A key is only known by the colon behind it, so a token that might start a key is held back until the
colon is found or can no longer come: a key ends on its own line and within 1024 characters. The
tokens after it wait as well. Text that cannot be scanned ends the tokens, and those still held
back are lost with it.
-/

namespace SwitchFabric.Yaml

/-- A token that a colon would turn into a key. -/
structure PendingKey where
  /-- The number of tokens before it. -/
  token : Nat
  /-- Block indentation demands a key here. -/
  required : Bool
  place : Cursor

/-- How far scanning has come. -/
structure Lexer where
  cursor : Cursor
  /-- Content of the innermost block collection stands at this column or right of it. -/
  floor : Nat
  /-- The floors of the enclosing blocks, innermost first. -/
  outerFloors : List Nat
  /-- A key may start here. -/
  keyAllowed : Bool
  /-- The possible key at this level of brackets, and at each level around it. -/
  pending : Option PendingKey
  outerPending : List (Option PendingKey)
  /-- Tokens held back, and the number of tokens before them. -/
  held : List Token
  released : Nat

namespace Lexer

/-- Nothing is read, and a key may come first. -/
def start (text : List Char) : Lexer :=
  { cursor := .start text, floor := 0, outerFloors := [], keyAllowed := true, pending := none
    outerPending := [], held := [.streamStart], released := 0 }

/-- Scanning is between brackets. -/
def flow (s : Lexer) : Bool := !s.outerPending.isEmpty

/-- Hold a token back behind the others. -/
def emit (t : Token) (s : Lexer) : Lexer := { s with held := s.held ++ [t] }

/-- Go on reading elsewhere. -/
def advance (c : Cursor) (s : Lexer) : Lexer := { s with cursor := c }

/-- Hold a token back in front of the token of the given number. -/
def emitBefore (token : Nat) (t : Token) (s : Lexer) : Lexer :=
  { s with held := s.held.insertIdx (token - s.released) t }

/-! ## Possible keys -/

/-- The possible key of this level is none after all; a required one cannot be given up. -/
def dropKey (s : Lexer) : Option Lexer :=
  match s.pending with
  | some k => if k.required then none else some { s with pending := none }
  | none => some s

/-- A key may start at the cursor. -/
def saveKey (s : Lexer) : Option Lexer :=
  if s.keyAllowed then do
    let s ← s.dropKey
    let required := !s.flow && s.floor == s.cursor.column + 1
    some { s with pending := some ⟨s.released + s.held.length, required, s.cursor⟩ }
  else some s

/-- A possible key whose colon can no longer come. -/
def PendingKey.isStale (c : Cursor) (k : PendingKey) : Bool :=
  k.place.line < c.line || k.place.index + 1024 < c.index

/-- Give up one level's possible key once its colon can no longer come. -/
def freshKey (c : Cursor) : Option PendingKey → Option (Option PendingKey)
  | none => some none
  | some k =>
    if PendingKey.isStale c k then if k.required then none else some none else some (some k)

/-- Give up every possible key whose colon can no longer come. -/
def dropStaleKeys (s : Lexer) : Option Lexer := do
  let pending ← freshKey s.cursor s.pending
  let outer ← s.outerPending.mapM (freshKey s.cursor)
  some { s with pending := pending, outerPending := outer }

/-! ## Indentation -/

/-- Open a block collection at a column right of the current one; its start goes before the token of
the given number, or last. -/
def openBlock (column : Nat) (before : Option Nat) (t : Token) (s : Lexer) : Lexer :=
  if s.flow || column < s.floor then s
  else
    let s := match before with
      | some token => s.emitBefore token t
      | none => s.emit t
    { s with floor := column + 1, outerFloors := s.floor :: s.outerFloors }

/-- The floors left, and the number of blocks closed, when content stands left of floor `limit`. -/
def closedBlocks (limit : Nat) : Nat → List Nat → Nat × Nat × List Nat
  | floor, [] => (0, floor, [])
  | floor, outer :: floors =>
    if limit < floor then
      let (n, rest) := closedBlocks limit outer floors
      (n + 1, rest)
    else (0, floor, outer :: floors)

/-- Close the block collections whose content starts right of where the floor `limit` allows. -/
def closeBlocks (limit : Nat) (s : Lexer) : Lexer :=
  if s.flow then s
  else
    let (n, floor, floors) := closedBlocks limit s.floor s.outerFloors
    { s with held := s.held ++ List.replicate n .blockEnd, floor := floor, outerFloors := floors }

/-! ## Tokens -/

/-- Skip white space and comments up to the next token. In a block, tabs cannot stand where a key may
start, and a new line lets one start. -/
def toNextToken : Nat → Lexer → Lexer
  | 0, s => s
  | fuel + 1, s =>
    let c := (s.cursor.dropWhile fun ch =>
      ch == ' ' || (ch == '\t' && (s.flow || !s.keyAllowed))).dropComment
    if !c.rest.isEmpty && atLineEnd c.rest then
      toNextToken fuel { s with cursor := c.lineBreak.2, keyAllowed := s.keyAllowed || !s.flow }
    else s.advance c

/-- End all blocks and give up the possible key, for a mark at the document's own level. -/
def toDocumentLevel (s : Lexer) : Option Lexer := do
  let s ← (s.closeBlocks 0).dropKey
  some { s with keyAllowed := false }

/-- The end of the text ends all blocks. -/
def scanStreamEnd (s : Lexer) : Option Lexer := do
  let s ← s.toDocumentLevel
  some (s.emit .streamEnd)

/-- A directive ends all blocks, as it stands at the level of the document. -/
def scanDirective (s : Lexer) : Option Lexer := do
  let s ← s.toDocumentLevel
  let (token, c) ← directive s.cursor
  some ((s.emit token).advance c)

/-- A mark of three characters between documents ends all blocks. -/
def scanDocumentMark (t : Token) (s : Lexer) : Option Lexer := do
  let s ← s.toDocumentLevel
  some ((s.emit t).advance (s.cursor.skip 3))

/-- An opening bracket may start a key. What may be a key inside it is looked for on a level of its
own. -/
def scanFlowStart (t : Token) (s : Lexer) : Option Lexer := do
  let s ← s.saveKey
  some { s.emit t with
    cursor := s.cursor.next, keyAllowed := true, pending := none
    outerPending := s.pending :: s.outerPending }

/-- A closing bracket leaves the level, and with it what may have been a key on it. -/
def scanFlowEnd (t : Token) (s : Lexer) : Option Lexer := do
  let s ← s.dropKey
  let (pending, outer) := match s.outerPending with
    | p :: ps => (p, ps)
    | [] => (none, [])
  some { s.emit t with
    cursor := s.cursor.next, keyAllowed := false, pending := pending, outerPending := outer }

/-- A comma ends what may have been a key, and lets another start. -/
def scanFlowEntry (s : Lexer) : Option Lexer := do
  let s ← s.dropKey
  some { s.emit .flowEntry with cursor := s.cursor.next, keyAllowed := true }

/-- A hyphen opens a block sequence where it is further right than the current block. -/
def scanBlockEntry (s : Lexer) : Option Lexer := do
  if !s.flow && !s.keyAllowed then none
  let s ← (s.openBlock s.cursor.column none .blockSequenceStart).dropKey
  some { s.emit .blockEntry with cursor := s.cursor.next, keyAllowed := true }

/-- A question mark marks a key, which then need not fit on a line. -/
def scanKey (s : Lexer) : Option Lexer := do
  if !s.flow && !s.keyAllowed then none
  let s ← (s.openBlock s.cursor.column none .blockMappingStart).dropKey
  some { s.emit .key with cursor := s.cursor.next, keyAllowed := !s.flow }

/-- A colon turns what may be a key into one, whose mark is put in front of it. Without one, the key
is empty. -/
def scanValue (s : Lexer) : Option Lexer :=
  match s.pending with
  | some k =>
    let s := (s.emitBefore k.token .key).openBlock k.place.column (some k.token) .blockMappingStart
    some { s.emit .value with cursor := s.cursor.next, keyAllowed := false, pending := none }
  | none =>
    if !s.flow && !s.keyAllowed then none
    else
      let s := s.openBlock s.cursor.column none .blockMappingStart
      some { s.emit .value with cursor := s.cursor.next, keyAllowed := !s.flow }

/-- A token that may be a key, or stand before one, and is read by `read`. -/
def scanContent (read : Lexer → Option (Token × Cursor)) (s : Lexer) : Option Lexer := do
  let s ← s.saveKey
  let (token, c) ← read s
  some { s.emit token with cursor := c, keyAllowed := false }

/-- A text in quotes of either kind. -/
def scanQuoted (quote : Char) (style : ScalarStyle) : Lexer → Option Lexer :=
  scanContent fun s => do
    let (text, c) ← quotedScalar quote s.cursor
    some (.scalar (String.ofList text) style, c)

/-- A plain text. If it ends with its line, a key may start behind it. -/
def scanPlain (s : Lexer) : Option Lexer := do
  let s ← s.saveKey
  let plain ← plainScalar s.flow s.floor s.cursor
  some { s.emit (.scalar (String.ofList plain.text) .plain) with
    cursor := plain.after, keyAllowed := plain.endsLine }

/-- The lines of a literal or a folded text, which cannot be a key. -/
def scanBlock (folded : Bool) (s : Lexer) : Option Lexer := do
  let s ← s.dropKey
  let (text, c) ← blockScalar folded s.floor s.cursor
  let style := if folded then ScalarStyle.folded else .literal
  some { s.emit (.scalar (String.ofList text) style) with cursor := c, keyAllowed := true }

/-- Indicators that cannot start a plain scalar, whatever follows. -/
def isReserved (c : Char) : Bool :=
  isFlowIndicator c || "?:-#&*!|>\x27\x22%@\x60".toList.contains c

/-- Scan the token that starts at the cursor. -/
def scanAt (s : Lexer) : Option Lexer :=
  let c := s.cursor
  match c.rest with
  | [] => s.scanStreamEnd
  | ch :: cs =>
    if c.column == 0 && ch == '%' then s.scanDirective
    else if c.column == 0 && atDocumentStart c.rest then s.scanDocumentMark .documentStart
    else if c.column == 0 && atDocumentEnd c.rest then s.scanDocumentMark .documentEnd
    else if ch == '[' then s.scanFlowStart .flowSequenceStart
    else if ch == '\x7b' then s.scanFlowStart .flowMappingStart
    else if ch == ']' then s.scanFlowEnd .flowSequenceEnd
    else if ch == '\x7d' then s.scanFlowEnd .flowMappingEnd
    else if ch == ',' then s.scanFlowEntry
    else if ch == '-' && atGap cs then s.scanBlockEntry
    else if ch == '?' && (s.flow || atGap cs) then s.scanKey
    else if ch == ':' && (s.flow || atGap cs) then s.scanValue
    else if ch == '*' then
      s.scanContent fun s => (anchorName s.cursor).map fun (name, c) => (.alias name, c)
    else if ch == '&' then
      s.scanContent fun s => (anchorName s.cursor).map fun (name, c) => (.anchor name, c)
    else if ch == '!' then s.scanContent fun s => tagToken s.flow s.cursor
    else if ch == '|' && !s.flow then s.scanBlock false
    else if ch == '>' && !s.flow then s.scanBlock true
    else if ch == '\x27' then s.scanQuoted '\x27' .singleQuoted
    else if ch == '\x22' then s.scanQuoted '\x22' .doubleQuoted
    else if !(isSpace ch || isReserved ch) || ch == '-' || ((ch == '?' || ch == ':') && !s.flow) then
      s.scanPlain
    else none

/-- Scan one more token, and what it makes of the tokens held back. -/
def scanNext (s : Lexer) : Option Lexer := do
  let s ← (toNextToken (s.cursor.rest.length + 1) s).dropStaleKeys
  let s := if s.cursor.rest.isEmpty then s else s.closeBlocks (s.cursor.column + 1)
  s.scanAt

/-- The number of the first token that may still become a key. -/
def firstPending (s : Lexer) : Option Nat :=
  ((s.pending :: s.outerPending).filterMap (·.map PendingKey.token)).min?

/-- The tokens that need not be held back any longer. -/
def release (s : Lexer) : List Token × Lexer :=
  let n := match s.firstPending with
    | some token => token - s.released
    | none => s.held.length
  (s.held.take n, { s with held := s.held.drop n, released := s.released + min n s.held.length })

/-- Scan until the text ends or cannot be scanned. Each round but the last reads a character. -/
def run : Nat → Lexer → List Token
  | 0, _ => []
  | fuel + 1, s =>
    let (out, s) := s.release
    if out.getLast? == some .streamEnd then out
    else
      match s.scanNext.bind dropStaleKeys with
      | some s => out ++ run fuel s
      | none => out

end Lexer

/-- The tokens of a document, up to its end or to what cannot be scanned. -/
def Token.ofText (text : List Char) : List Token :=
  if text.all isAllowed then Lexer.run (text.length + 3) (.start text) else []

end SwitchFabric.Yaml
