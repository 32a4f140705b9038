import SwitchFabric.Yaml.Cursor

/-!
# White space inside a scalar

Plain and quoted scalars run over several lines. The white space between two runs of their characters
is a gap. Blanks on one line stand for themselves; a single line feed folds to a space, and further
line breaks are kept.
-/

namespace SwitchFabric.Yaml

/-- The white space between two runs of characters. -/
inductive Gap where
  /-- Blanks on one line. -/
  | inline (blanks : List Char)
  /-- A first line break, which an escape can leave empty, and the further ones. -/
  | broken (first more : List Char)

namespace Gap

/-- A line ends in the gap. -/
def isBroken : Gap → Bool
  | .inline _ => false
  | .broken _ _ => true

/-- What a gap stands for between two runs of characters. -/
def folded : Gap → List Char
  | .inline blanks => blanks
  | .broken ['\n'] [] => [' ']
  | .broken ['\n'] more => more
  | .broken first more => first ++ more

/-- Read on in a gap. On a line after its first break, a tab left of column `margin` is refused.
Every step reads a character, so a fuel of the number of characters left is enough. -/
def readOn (margin : Nat) : Nat → Gap → Cursor → Option (Gap × Cursor)
  | 0, gap, c => some (gap, c)
  | fuel + 1, gap, c =>
    match c.rest with
    | [] => some (gap, c)
    | ch :: _ =>
      if isSpace ch then
        match gap with
        | .inline blanks => readOn margin fuel (.inline (blanks ++ [ch])) c.next
        | .broken _ _ =>
          if ch == '\t' && c.column < margin then none else readOn margin fuel gap c.next
      else if isBreak ch then
        let (kept, after) := c.lineBreak
        match gap with
        | .inline _ => readOn margin fuel (.broken kept []) after
        | .broken first more => readOn margin fuel (.broken first (more ++ kept)) after
      else some (gap, c)

/-- The gap at the cursor after what `gap` holds already, and the cursor after it. -/
def read (margin : Nat) (gap : Gap) (c : Cursor) : Option (Gap × Cursor) :=
  readOn margin c.rest.length gap c

end Gap

end SwitchFabric.Yaml
