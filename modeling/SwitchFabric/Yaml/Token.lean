import SwitchFabric.Yaml.Quoted
import SwitchFabric.Text.Decimal
import SwitchFabric.Text.Utf8

/-!
# Tokens

The marks and words of a document, and the readers of the ones that are more than a character:
directives, anchors and tags.
-/

namespace SwitchFabric.Yaml

/-- The ways to write a scalar. -/
inductive ScalarStyle where
  | plain
  | singleQuoted
  | doubleQuoted
  | literal
  | folded
  deriving DecidableEq

/-- A mark or a word. The ends of blocks are tokens, too, though only the indentation shows them. -/
inductive Token where
  | streamStart
  | streamEnd
  | versionDirective (major minor : Nat)
  | tagDirective (handle expansion : String)
  | documentStart
  | documentEnd
  | blockSequenceStart
  | blockMappingStart
  | blockEnd
  | flowSequenceStart
  | flowSequenceEnd
  | flowMappingStart
  | flowMappingEnd
  | blockEntry
  | flowEntry
  | key
  | value
  | alias (name : String)
  | anchor (name : String)
  | tag (handle suffix : String)
  | scalar (text : String) (style : ScalarStyle)
  deriving DecidableEq

/-! ## Anchors and aliases -/

/-- The name after an anchor or alias mark. -/
def anchorName (c : Cursor) : Option (String × Cursor) :=
  let (name, c) := c.next.takeWhile isNameChar
  let ends := match c.rest with
    | [] => true
    | ch :: _ => atGap c.rest || "?:,]\x7d%@\x60".toList.contains ch
  if name.isEmpty || !ends then none else some (String.ofList name, c)

/-! ## Tags -/

/-- Characters of a tag; inside angle brackets and in a directive the flow marks count too. -/
def isTagChar (verbatim : Bool) (c : Char) : Bool :=
  isNameChar c || ";/?:@&=+$.%!~*\x27()".toList.contains c || (verbatim && ",[]".toList.contains c)

/-- The number of bytes of a character whose first byte is given. -/
def byteWidth (first : Nat) : Option Nat :=
  if first < 0x80 then some 1
  else if 0xc0 ≤ first && first < 0xe0 then some 2
  else if 0xe0 ≤ first && first < 0xf0 then some 3
  else if 0xf0 ≤ first && first < 0xf8 then some 4
  else none

/-- A byte written as a percent sign and two hexadecimal digits. -/
def percentByte : List Char → Option Nat
  | '%' :: a :: b :: _ => hexFrom? 0 [a, b]
  | _ => none

/-- `n` more bytes of a character, each written with a percent sign. -/
def followingBytes : Nat → List Char → Option (List UInt8)
  | 0, _ => some []
  | n + 1, cs => do
    let byte ← percentByte cs
    if byte / 64 != 2 then none
    else return UInt8.ofNat byte :: (← followingBytes n (cs.drop 3))

/-- The character that percent escapes spell at the start of `cs`, and their length. -/
def percentChar (cs : List Char) : Option (List Char × Nat) := do
  let first ← percentByte cs
  let width ← byteWidth first
  let more ← followingBytes (width - 1) (cs.drop 3)
  some ((Text.decodeLenient (UInt8.ofNat first :: more)).toList, 3 * width)

/-- Read the characters of a tag. -/
def tagChars (verbatim : Bool) : Nat → List Char → Cursor → Option (List Char × Cursor)
  | 0, text, c => some (text, c)
  | fuel + 1, text, c =>
    match c.rest with
    | [] => some (text, c)
    | ch :: _ =>
      if !isTagChar verbatim ch then some (text, c)
      else if ch == '%' then do
        let (decoded, width) ← percentChar c.rest
        tagChars verbatim fuel (text ++ decoded) (c.skip width)
      else tagChars verbatim fuel (text ++ [ch]) c.next

/-- A tag's text after `head`, which must not be empty together with it. -/
def tagText (verbatim : Bool) (head : List Char) (c : Cursor) : Option (List Char × Cursor) := do
  let (text, after) ← tagChars verbatim c.rest.length head.tail c
  if head.isEmpty && after.index == c.index then none else some (text, after)

/-- A tag handle: an exclamation mark, then perhaps a name and a second mark. -/
def tagHandle (c : Cursor) : Option (List Char × Cursor) :=
  if c.looksAt '!' then
    let (name, c) := c.next.takeWhile isNameChar
    if c.looksAt '!' then some ('!' :: name ++ ['!'], c.next) else some ('!' :: name, c)
  else none

/-- The tag at the cursor: verbatim, with a handle, or local. Between brackets a comma may follow it. -/
def tagToken (flow : Bool) (c : Cursor) : Option (Token × Cursor) := do
  let (handle, suffix, c) ←
    if c.next.looksAt '<' then do
      let (suffix, c) ← tagText true [] (c.skip 2)
      if c.looksAt '>' then some ([], suffix, c.next) else none
    else do
      let (handle, c) ← tagHandle c
      if handle.length > 1 && handle.getLast? == some '!' then do
        let (suffix, c) ← tagText false [] c
        some (handle, suffix, c)
      else do
        let (suffix, c) ← tagText false handle c
        if suffix.isEmpty then some ([], ['!'], c) else some (['!'], suffix, c)
  if atGap c.rest || (flow && c.looksAt ',') then
    some (.tag (String.ofList handle) (String.ofList suffix), c)
  else none

/-! ## Directives -/

/-- A number of at most nine digits. -/
def versionNumber (c : Cursor) : Option (Nat × Cursor) := do
  let (digits, c) := c.takeWhile Char.isDigit
  if digits.length > 9 then none
  let n ← Text.value? digits
  some (n, c)

/-- The version of the format, as two numbers around a point. -/
def versionDirective (c : Cursor) : Option (Token × Cursor) := do
  let (major, c) ← versionNumber (c.dropWhile isSpace)
  if !c.looksAt '.' then none
  let (minor, c) ← versionNumber c.next
  some (.versionDirective major minor, c)

/-- A tag handle and what it stands for. -/
def tagDirective (c : Cursor) : Option (Token × Cursor) := do
  let (handle, c) ← tagHandle (c.dropWhile isSpace)
  if handle.getLast? != some '!' then none
  if c.rest.isEmpty || !atGap c.rest || atLineEnd c.rest then none
  let (expansion, c) ← tagText true [] (c.dropWhile isSpace)
  if !atGap c.rest then none
  some (.tagDirective (String.ofList handle) (String.ofList expansion), c)

/-- The directive at the cursor, which stands at a percent sign, and the cursor on the next line. -/
def directive (c : Cursor) : Option (Token × Cursor) := do
  let (name, c) := c.next.takeWhile isNameChar
  if !atGap c.rest then none
  let (token, c) ←
    if name == "YAML".toList then versionDirective c
    else if name == "TAG".toList then tagDirective c
    else none
  let c ← c.finishLine
  some (token, c)

end SwitchFabric.Yaml
