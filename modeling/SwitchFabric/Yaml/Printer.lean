import SwitchFabric.Yaml.Token
import SwitchFabric.Yaml.Value

/-!
# Printing values

Values as a document in block style: two columns of indentation for a mapping, the items of a sequence
at the column of the mapping around it, and brackets only for what is empty. A text is written plain
unless that would read as something else; then it is put in quotes, and a text of several lines is a
literal block.
-/

namespace SwitchFabric.Yaml

/-! ## Styles of texts -/

/-- Characters that stand for themselves in a document. -/
def isPrinted (c : Char) : Bool :=
  let n := c.toNat
  n == 10 || (0x20 ≤ n && n ≤ 0x7e) ||
    (0xa0 ≤ n && n ≤ 0xfffd && n != 0xfeff)

/-- White space or a null character, which end a word. -/
def endsWord (c : Char) : Bool := isSpace c || isBreak c || c.toNat == 0

/-- The text is at its end or at a character that ends a word. -/
def atWordEnd : List Char → Bool
  | [] => true
  | c :: _ => endsWord c

/-- Two neighbours satisfy `p` and `q`. -/
def hasNeighbours (p q : Char → Bool) : List Char → Bool
  | a :: b :: cs => (p a && q b) || hasNeighbours p q (b :: cs)
  | _ => false

/-- A colon before white space or a number sign after it, behind the first character. -/
def hasInnerIndicator (cs : List Char) : Bool :=
  hasNeighbours endsWord (· == '#') cs || hasNeighbours (· == ':') endsWord cs.tail ||
    (1 < cs.length && cs.getLast? == some ':')

/-- The text starts with a character that has a meaning of its own there. -/
def startsWithIndicator : List Char → Bool
  | [] => false
  | c :: cs =>
    "#,[]\x7b\x7d&*!|>\x27\x22%@\x60".toList.contains c ||
      ((c == '?' || c == ':' || c == '-') && atWordEnd cs)

/-- The text starts like a document mark. -/
def startsLikeMark (cs : List Char) : Bool :=
  "---".toList.isPrefixOf cs || "...".toList.isPrefixOf cs

/-- Neither quotes nor blocks can hold the text as it is. -/
def needsEscapes (cs : List Char) : Bool :=
  !cs.all isPrinted || hasNeighbours (· == ' ') isBreak cs

/-- A plain text is of one line, has no space at its ends, and nothing in it looks like a mark. -/
def plainAllowed (cs : List Char) : Bool :=
  let edge (c : Option Char) : Bool := c == some ' '
  !(needsEscapes cs || cs.any isBreak || edge cs.head? || edge cs.getLast? || startsLikeMark cs ||
    startsWithIndicator cs || hasInnerIndicator cs)

/-- Single quotes hold whatever needs no escapes, unless a line break is followed by a space. -/
def singleQuotedAllowed (cs : List Char) : Bool :=
  !(needsEscapes cs || hasNeighbours isBreak (· == ' ') cs)

/-- A block has something in it, and shows no space at its end. -/
def blockAllowed (cs : List Char) : Bool :=
  !(cs.isEmpty || needsEscapes cs || cs.getLast? == some ' ')

/-- The style for a text: the plainest that holds it and reads back as a text. -/
def styleOf (s : String) : ScalarStyle :=
  let cs := s.toList
  if cs.contains '\n' then if blockAllowed cs then .literal else .doubleQuoted
  else if resolve s == .text && !isZeroPadded cs && plainAllowed cs then .plain
  else if singleQuotedAllowed cs then .singleQuoted
  else .doubleQuoted

/-! ## Output -/

/-- What has been written, last character first, and how the current line stands. -/
structure Output where
  written : List Char
  column : Nat
  /-- The last thing written separates words. -/
  spaced : Bool
  /-- Only indentation and marks of entries are on the line. -/
  fresh : Bool

namespace Output

/-- Nothing is written, and no space is needed. -/
def start : Output := ⟨[], 0, true, true⟩

/-- Write a character, and keep count of the column. -/
def put (c : Char) (o : Output) : Output :=
  if isBreak c then { o with written := c :: o.written, column := 0 }
  else { o with written := c :: o.written, column := o.column + 1 }

/-- Write characters in turn. -/
def puts (cs : List Char) (o : Output) : Output := cs.foldl (fun o c => o.put c) o

/-- Stand at column `indent` of a line that holds nothing yet but marks of entries. -/
def indent (n : Nat) (o : Output) : Output :=
  let o := if !o.fresh || n < o.column || (o.column == n && !o.spaced) then o.put '\n' else o
  let o := o.puts (List.replicate (n - o.column) ' ')
  { o with spaced := true, fresh := true }

/-- Write a word, after a space if one is needed. -/
def word (cs : List Char) (o : Output) : Output :=
  let o := if o.spaced then o else o.put ' '
  { o.puts cs with spaced := false, fresh := false }

/-- Write the mark of an entry, which keeps the line fresh. -/
def mark (c : Char) (o : Output) : Output :=
  let o := if o.spaced then o else o.put ' '
  { o.put c with spaced := false }

/-- Write the colon behind a key. -/
def colon (o : Output) : Output := { o.put ':' with spaced := false, fresh := false }

end Output

/-! ## Scalars -/

/-- Write the characters of a single-quoted text. -/
def putSingleQuoted (indent : Nat) : Bool → List Char → Output → Output
  | broken, [], o => if broken then o.indent indent else o
  | broken, c :: cs, o =>
    if isBreak c then putSingleQuoted indent true cs { o.put c with fresh := true }
    else if c == ' ' then putSingleQuoted indent broken cs (o.put c)
    else
      let o := if broken then o.indent indent else o
      let o := if c == '\x27' then (o.put c).put c else o.put c
      putSingleQuoted indent false cs { o with fresh := false }

/-- A number in `width` capital hexadecimal digits. -/
def hexDigits (width n : Nat) : List Char :=
  let ds := (Nat.toDigits 16 n).map Char.toUpper
  List.replicate (width - ds.length) '0' ++ ds

/-- What follows the backslash for a character that has to be escaped. -/
def escapeCode (c : Char) : List Char :=
  let n := c.toNat
  if n == 0 then ['0']
  else if n == 7 then ['a']
  else if n == 8 then ['b']
  else if n == 9 then ['t']
  else if n == 10 then ['n']
  else if n == 11 then ['v']
  else if n == 12 then ['f']
  else if n == 13 then ['r']
  else if n == 27 then ['e']
  else if n == 0x22 || n == 0x5c then [c]
  else if n == 0x85 then ['N']
  else if n == 0x2028 then ['L']
  else if n == 0x2029 then ['P']
  else if n ≤ 0xff then 'x' :: hexDigits 2 n
  else if n ≤ 0xffff then 'u' :: hexDigits 4 n
  else 'U' :: hexDigits 8 n

/-- One character of a double-quoted text. -/
def doubleQuotedChar (c : Char) : List Char :=
  if !isPrinted c || isBreak c || c == '\x22' || c == '\x5c' then '\x5c' :: escapeCode c else [c]

/-- The hints behind the mark of a literal block: its indentation if the text starts with white space,
and whether it ends without a line break or with several. -/
def blockHints (cs : List Char) : List Char :=
  let first := match cs with
    | c :: _ => if c == ' ' || isBreak c then ['2'] else []
    | [] => []
  let last := match cs.reverse with
    | [] => ['-']
    | [c] => if isBreak c then ['+'] else ['-']
    | c :: d :: _ => if !isBreak c then ['-'] else if isBreak d then ['+'] else []
  first ++ last

/-- Write the lines of a literal block; `broken` tells that a line starts. -/
def putLines (indent : Nat) : Bool → List Char → Output → Output
  | _, [], o => o
  | broken, c :: cs, o =>
    if isBreak c then putLines indent true cs { o.put c with fresh := true }
    else
      let o := if broken then o.indent indent else o
      putLines indent false cs { o.put c with fresh := false }

/-- Write a text in a style; the lines of a block stand at column `indent`. -/
def putText (style : ScalarStyle) (indent : Nat) (cs : List Char) (o : Output) : Output :=
  match style with
  | .plain => o.word cs
  | .singleQuoted =>
    let o := putSingleQuoted indent false cs (o.word ['\x27'])
    { o.put '\x27' with spaced := false, fresh := false }
  | .doubleQuoted => o.word ('\x22' :: cs.flatMap doubleQuotedChar ++ ['\x22'])
  | .literal | .folded =>
    let o := (o.word ('|' :: blockHints cs)).put '\n'
    putLines indent true cs { o with spaced := true, fresh := true }

/-- A tag as it is written, with percent escapes for what it may not hold. -/
def tagWord (tag : String) : List Char :=
  '!' :: tag.toList.flatMap fun c =>
    if isNameChar c || ";/?:@&=+$,_.~*\x27()[]!".toList.contains c then [c]
    else (Text.encode (String.ofList [c])).flatMap fun b => '%' :: hexDigits 2 b.toNat

/-! ## Values -/

/-- A key of one line and at most 128 bytes, which a colon may follow directly. -/
def isSimpleKey : Value → Bool
  | .string s => s.utf8ByteSize ≤ 128 && !s.toList.any isBreak
  | .sequence items => items.isEmpty
  | .mapping entries => entries.isEmpty
  | .tagged _ _ => false
  | _ => true

/-- The column of the entries of a block mapping, or of a sequence's items outside a mapping. -/
def nested : Option Nat → Nat
  | none => 0
  | some n => n + 2

mutual

/-- Write a value inside a block whose entries stand at column `indent`. `inMapping` tells that it is
a key or a value of a mapping. -/
def putValue (indent : Option Nat) (inMapping : Bool) : Value → Output → Output
  | .null, o => o.word "null".toList
  | .bool b, o => o.word (if b then "true" else "false").toList
  | .int n, o => o.word (toString n).toList
  | .real x, o => o.word x.text
  | .string s, o => putText (styleOf s) ((indent.getD 0) + 2) s.toList o
  | .tagged tag content, o => putValue indent inMapping content (o.word (tagWord tag))
  | .sequence [], o => o.word ['[', ']']
  | .sequence items, o =>
    let column := if inMapping && !o.fresh then indent.getD 0 else nested indent
    putItems column items o
  | .mapping [], o => o.word ['\x7b', '\x7d']
  | .mapping entries, o => putEntries (nested indent) entries o

/-- Write the items of a sequence, each behind a hyphen at the given column. -/
def putItems (column : Nat) : List Value → Output → Output
  | [], o => o
  | item :: items, o =>
    putItems column items (putValue (some column) false item ((o.indent column).mark '-'))

/-- Write the entries of a mapping at the given column. A key that is not simple stands behind a
question mark. -/
def putEntries (column : Nat) : List (Value × Value) → Output → Output
  | [], o => o
  | (key, value) :: entries, o =>
    let o := o.indent column
    let o :=
      if isSimpleKey key then (putValue (some column) true key o).colon
      else ((putValue (some column) true key (o.mark '?')).indent column).mark ':'
    putEntries column entries (putValue (some column) true value o)

end

/-- A value as the text of a document. -/
def Value.print (v : Value) : String :=
  String.ofList ((putValue none false v .start).indent 0).written.reverse

end SwitchFabric.Yaml
