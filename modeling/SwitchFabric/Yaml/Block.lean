import SwitchFabric.Yaml.Cursor
import SwitchFabric.Text.Decimal

/-!
# Block scalars

A literal block keeps its lines, a folded one joins lines that start without white space. The
header says how the line breaks at the end are treated and, if need be, how far the block is indented.
-/

namespace SwitchFabric.Yaml

/-- What happens to the line breaks at the end of a block. -/
inductive Chomping where
  | strip
  | clip
  | keep
  deriving DecidableEq

/-- What the line of the indicator says about a block. -/
structure BlockHeader where
  chomping : Chomping
  /-- Columns right of the enclosing block; found from the first line when absent. -/
  indentation : Option Nat

/-- The indicator of one of the two ways that are not the usual one. -/
def chomping? (c : Cursor) : Option Chomping :=
  if c.looksAt '+' then some .keep else if c.looksAt '-' then some .strip else none

/-- An indentation digit, which is not zero. -/
def indentationDigit (c : Cursor) : Option (Option Nat × Cursor) :=
  match c.rest with
  | d :: _ =>
    if d == '0' then none
    else if d.isDigit then some (some (Text.digitValue d), c.next)
    else some (none, c)
  | [] => some (none, c)

/-- The header after the block's indicator, up to the next line. -/
def blockHeader (c : Cursor) : Option (BlockHeader × Cursor) :=
  match chomping? c with
  | some chomping => do
    let (indentation, c) ← indentationDigit c.next
    let c ← c.finishLine
    some (⟨chomping, indentation⟩, c)
  | none => do
    let (indentation, c) ← indentationDigit c
    match indentation, chomping? c with
    | some _, some chomping => do
      let c ← c.next.finishLine
      some (⟨chomping, indentation⟩, c)
    | _, _ => do
      let c ← c.finishLine
      some (⟨.clip, indentation⟩, c)

/-- The indentation spaces at the cursor, to column `indent` at most, or all of them. -/
def indentation (indent : Option Nat) (c : Cursor) : Cursor :=
  let spaces := (c.takeWhile (· == ' ')).1.length
  c.skip (match indent with
    | none => spaces
    | some n => min spaces (n - c.column))

/-- Skip empty lines and indentation: the line breaks passed, the widest indentation seen, and the
cursor at the next content. A tab in place of indentation is refused. -/
def emptyLines (indent : Option Nat) :
    Nat → List Char → Nat → Cursor → Option (List Char × Nat × Cursor)
  | 0, breaks, widest, c => some (breaks, widest, c)
  | fuel + 1, breaks, widest, c =>
    let c := indentation indent c
    let widest := max widest c.column
    let inside := match indent with
      | none => true
      | some n => c.column < n
    if inside && c.looksAt '\t' then none
    else if !c.rest.isEmpty && atLineEnd c.rest then
      let (kept, after) := c.lineBreak
      emptyLines indent fuel (breaks ++ kept) widest after
    else some (breaks, widest, c)

/-- Read the lines of a block at column `indent`. `lastBreak` ends the line before, `empties` are the
breaks of empty lines after it, and `spaced` tells whether it started with white space. -/
def blockLines (folded : Bool) (indent : Nat) :
    Nat → List Char → List Char → List Char → Bool → Cursor →
      Option (List Char × List Char × List Char × Cursor)
  | 0, text, lastBreak, empties, _, c => some (text, lastBreak, empties, c)
  | fuel + 1, text, lastBreak, empties, spaced, c =>
    if c.column == indent && !c.rest.isEmpty then
      let startsSpaced := match c.rest with
        | ch :: _ => isSpace ch
        | [] => false
      let joined :=
        if folded && lastBreak == ['\n'] && !spaced && !startsSpaced then
          if empties.isEmpty then [' '] else []
        else lastBreak
      let (line, c) := c.takeWhile (!isBreak ·)
      let (lastBreak, c) := c.lineBreak
      match emptyLines (some indent) (c.rest.length + 1) [] 0 c with
      | none => none
      | some (breaks, _, c) =>
        blockLines folded indent fuel (text ++ joined ++ empties ++ line) lastBreak breaks
          startsSpaced c
    else some (text, lastBreak, empties, c)

/-- The block scalar whose indicator stands at the cursor; content of the enclosing block stands at
column `margin` or right of it. -/
def blockScalar (folded : Bool) (margin : Nat) (c : Cursor) : Option (List Char × Cursor) := do
  let (header, c) ← blockHeader c.next
  let given := header.indentation.map (· + (margin - 1))
  let (empties, widest, c) ← emptyLines given (c.rest.length + 1) [] 0 c
  let indent := given.getD (max (max widest margin) 1)
  let (text, lastBreak, empties, c) ←
    blockLines folded indent (c.rest.length + 1) [] [] empties false c
  let tail := match header.chomping with
    | .strip => []
    | .clip => lastBreak
    | .keep => lastBreak ++ empties
  some (text ++ tail, c)

end SwitchFabric.Yaml
