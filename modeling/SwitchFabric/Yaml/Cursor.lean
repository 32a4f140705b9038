/-!
# Reading positions in a document

Character classes of the format and a cursor: the text still to be read and how far reading has come.
Lines end at a line feed, a carriage return or both, at next line, and at the two separators; a
scalar keeps a separator and takes every other line break as a line feed.
-/

namespace SwitchFabric.Yaml

/-- Characters a document may hold. A byte order mark is not one of them. -/
def isAllowed (c : Char) : Bool :=
  let n := c.toNat
  n == 9 || n == 10 || n == 13 || (0x20 ≤ n && n ≤ 0x7e) || n == 0x85 || (0xa0 ≤ n && n ≤ 0xd7ff) ||
    (0xe000 ≤ n && n ≤ 0xfffd && n != 0xfeff) || 0x10000 ≤ n

/-- Characters that end a line, or are half of what ends it. -/
def isBreak (c : Char) : Bool :=
  c == '\n' || c == '\r' || c.toNat == 0x85 || c.toNat == 0x2028 || c.toNat == 0x2029

/-- Blanks within a line. -/
def isSpace (c : Char) : Bool := c == ' ' || c == '\t'

/-- Letters of directive names, anchors and tag handles. -/
def isNameChar (c : Char) : Bool := c.isAlphanum || c == '_' || c == '-'

/-- Characters with a meaning of their own between brackets. -/
def isFlowIndicator (c : Char) : Bool :=
  c == ',' || c == '[' || c == ']' || c == '\x7b' || c == '\x7d'

/-- The text stands at a space, a line break or its end. -/
def atGap : List Char → Bool
  | [] => true
  | c :: _ => isSpace c || isBreak c

/-- The text stands at a line break or its end. -/
def atLineEnd : List Char → Bool
  | [] => true
  | c :: _ => isBreak c

/-- The text starts with the mark `---`. -/
def atDocumentStart (cs : List Char) : Bool := "---".toList.isPrefixOf cs && atGap (cs.drop 3)

/-- The text starts with the mark `...`. -/
def atDocumentEnd (cs : List Char) : Bool := "...".toList.isPrefixOf cs && atGap (cs.drop 3)

/-- The text still to be read, and the number of characters, lines and columns before it. -/
structure Cursor where
  rest : List Char
  index : Nat
  line : Nat
  column : Nat

namespace Cursor

/-- The start of a text. -/
def start (text : List Char) : Cursor := ⟨text, 0, 0, 0⟩

/-- The cursor `n` characters further on the same line. -/
def skip (n : Nat) (c : Cursor) : Cursor := ⟨c.rest.drop n, c.index + n, c.line, c.column + n⟩

/-- The cursor behind the next character, which is no line break. -/
def next (c : Cursor) : Cursor := c.skip 1

/-- The line break at the cursor as a scalar holds it, and the cursor after it. -/
def lineBreak (c : Cursor) : List Char × Cursor :=
  match c.rest with
  | '\r' :: '\n' :: rest => (['\n'], ⟨rest, c.index + 2, c.line + 1, 0⟩)
  | b :: rest =>
    if isBreak b then
      let kept := if b.toNat == 0x2028 || b.toNat == 0x2029 then b else '\n'
      ([kept], ⟨rest, c.index + 1, c.line + 1, 0⟩)
    else ([], c)
  | [] => ([], c)

/-- The characters from the cursor on that satisfy `p`, and the cursor after them. -/
def takeWhile (p : Char → Bool) (c : Cursor) : List Char × Cursor :=
  let taken := c.rest.takeWhile p
  (taken, c.skip taken.length)

/-- The cursor after the characters from it on that satisfy `p`. -/
def dropWhile (p : Char → Bool) (c : Cursor) : Cursor := (c.takeWhile p).2

/-- The next character is `ch`. -/
def looksAt (ch : Char) (c : Cursor) : Bool := c.rest.head? == some ch

/-- The cursor stands at a document mark at the start of a line. -/
def atDocumentMark (c : Cursor) : Bool :=
  c.column == 0 && (atDocumentStart c.rest || atDocumentEnd c.rest)

/-- The cursor after the comment that starts at it, if one does: at the end of the line. -/
def dropComment (c : Cursor) : Cursor :=
  if c.looksAt '#' then c.dropWhile (!isBreak ·) else c

/-- The rest of a header line: blanks, a comment and the line break. -/
def finishLine (c : Cursor) : Option Cursor :=
  let c := (c.dropWhile isSpace).dropComment
  if atLineEnd c.rest then some c.lineBreak.2 else none

end Cursor

end SwitchFabric.Yaml
