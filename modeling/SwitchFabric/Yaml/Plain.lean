import SwitchFabric.Yaml.Gap

/-!
# Plain scalars

A plain scalar has no quotes: it goes on to a comment, a colon before white space, a document mark, a
line that is not indented enough, or, between brackets, an indicator.
-/

namespace SwitchFabric.Yaml

/-- A scalar that was read: its text, whether it may be followed by a key because it ended after a line
break, and the cursor after it and the white space it had to look past. -/
structure PlainText where
  text : List Char
  endsLine : Bool
  after : Cursor

/-- A flow indicator follows at once. -/
def touchesIndicator : List Char → Bool
  | [] => false
  | c :: _ => isFlowIndicator c || c == '?'

/-- The characters of a plain scalar up to the next gap or indicator; none where, between brackets, a
colon touches an indicator. -/
def plainRun (flow : Bool) : List Char → Option (List Char)
  | [] => some []
  | c :: cs =>
    if isSpace c || isBreak c then some []
    else if flow && c == ':' && touchesIndicator cs then none
    else if c == ':' && atGap cs then some []
    else if flow && isFlowIndicator c then some []
    else (plainRun flow cs).map (c :: ·)

/-- Read on in a plain scalar of which `text` is read, with `gap` behind it. Every round but the last
reads a character. -/
def plainFrom (flow : Bool) (margin : Nat) :
    Nat → List Char → Gap → Cursor → Option PlainText
  | 0, text, gap, c => some ⟨text, gap.isBroken, c⟩
  | fuel + 1, text, gap, c =>
    if c.atDocumentMark || c.looksAt '#' then some ⟨text, gap.isBroken, c⟩
    else do
      let run ← plainRun flow c.rest
      let c := c.skip run.length
      let (text, gap) := if run.isEmpty then (text, gap) else (text ++ gap.folded ++ run, .inline [])
      if c.rest.isEmpty || !atGap c.rest then some ⟨text, gap.isBroken, c⟩
      else do
        let (gap, c) ← Gap.read margin (.inline []) c
        if !flow && c.column < margin then some ⟨text, gap.isBroken, c⟩
        else plainFrom flow margin fuel text gap c

/-- The plain scalar at the cursor. Its further lines start at column `margin` or right of it. -/
def plainScalar (flow : Bool) (margin : Nat) (c : Cursor) : Option PlainText :=
  plainFrom flow margin (c.rest.length + 1) [] (.inline []) c

end SwitchFabric.Yaml
