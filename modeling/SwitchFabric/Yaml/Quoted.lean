import SwitchFabric.Yaml.Gap

/-!
# Quoted scalars

In single quotes, a quote is written twice. In double quotes, a backslash starts an escape, and one at
the end of a line joins the next line without a space.
-/

namespace SwitchFabric.Yaml

/-- The number that hexadecimal digits spell after a number `n`. -/
def hexFrom? (n : Nat) : List Char → Option Nat
  | [] => some n
  | c :: cs =>
    if c.isDigit then hexFrom? (n * 16 + (c.toNat - 48)) cs
    else if 'a' ≤ c && c ≤ 'f' then hexFrom? (n * 16 + (c.toNat - 87)) cs
    else if 'A' ≤ c && c ≤ 'F' then hexFrom? (n * 16 + (c.toNat - 55)) cs
    else none

/-- The character with a code point, which is a surrogate's for none. -/
def charOf? (n : Nat) : Option Char :=
  if h : n.isValidChar then some (Char.ofNatAux n h) else none

/-- The character that `width` hexadecimal digits name. -/
def hexEscape (width : Nat) (cs : List Char) : Option (Char × Nat) := do
  let digits := cs.take width
  if digits.length < width then none
  let c ← charOf? (← hexFrom? 0 digits)
  some (c, width + 1)

/-- The character an escape stands for, read after the backslash, and its length without it. -/
def escape : List Char → Option (Char × Nat)
  | [] => none
  | 'x' :: cs => hexEscape 2 cs
  | 'u' :: cs => hexEscape 4 cs
  | 'U' :: cs => hexEscape 8 cs
  | '0' :: _ => some (Char.ofNat 0, 1)
  | 'a' :: _ => some (Char.ofNat 7, 1)
  | 'b' :: _ => some (Char.ofNat 8, 1)
  | 't' :: _ | '\t' :: _ => some ('\t', 1)
  | 'n' :: _ => some ('\n', 1)
  | 'v' :: _ => some (Char.ofNat 11, 1)
  | 'f' :: _ => some (Char.ofNat 12, 1)
  | 'r' :: _ => some ('\r', 1)
  | 'e' :: _ => some (Char.ofNat 27, 1)
  | 'N' :: _ => some (Char.ofNat 0x85, 1)
  | '_' :: _ => some (Char.ofNat 0xa0, 1)
  | 'L' :: _ => some (Char.ofNat 0x2028, 1)
  | 'P' :: _ => some (Char.ofNat 0x2029, 1)
  | c :: _ =>
    if c == ' ' || c == '/' || c == '\x22' || c == '\x5c' then some (c, 1) else none

/-- Read the characters in single quotes up to the next gap or the closing quote. -/
def singleRun : Nat → List Char → Cursor → List Char × Cursor
  | 0, text, c => (text, c)
  | fuel + 1, text, c =>
    match c.rest with
    | [] => (text, c)
    | '\x27' :: '\x27' :: _ => singleRun fuel (text ++ ['\x27']) (c.skip 2)
    | ch :: _ =>
      if ch == '\x27' || isSpace ch || isBreak ch then (text, c)
      else singleRun fuel (text ++ [ch]) c.next

/-- Read the characters in double quotes up to the next gap, the closing quote or just past an escaped
line break; the gap that is read on then says which. -/
def doubleRun : Nat → List Char → Cursor → Option (List Char × Gap × Cursor)
  | 0, text, c => some (text, .inline [], c)
  | fuel + 1, text, c =>
    match c.rest with
    | [] => some (text, .inline [], c)
    | ch :: cs =>
      if ch == '\x22' || isSpace ch || isBreak ch then some (text, .inline [], c)
      else if ch == '\x5c' then
        if !cs.isEmpty && atLineEnd cs then some (text, .broken [] [], c.next.lineBreak.2)
        else do
          let (escaped, width) ← escape cs
          doubleRun fuel (text ++ [escaped]) (c.skip (1 + width))
      else doubleRun fuel (text ++ [ch]) c.next

/-- Read on in a quoted scalar up to and past its closing quote. It may not run into a document mark
or the end of the text. -/
def quotedFrom (quote : Char) : Nat → List Char → Cursor → Option (List Char × Cursor)
  | 0, _, _ => none
  | fuel + 1, text, c =>
    if c.atDocumentMark || c.rest.isEmpty then none
    else do
      let (text, gap, c) ←
        if quote == '\x27' then
          let (text, c) := singleRun c.rest.length text c
          some (text, Gap.inline [], c)
        else doubleRun c.rest.length text c
      if c.looksAt quote then some (text, c.next)
      else do
        let (gap, c) ← Gap.read 0 gap c
        quotedFrom quote fuel (text ++ gap.folded) c

/-- The quoted scalar that opens at the cursor. -/
def quotedScalar (quote : Char) (c : Cursor) : Option (List Char × Cursor) :=
  quotedFrom quote (c.rest.length + 1) [] c.next

end SwitchFabric.Yaml
