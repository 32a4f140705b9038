import SwitchFabric.Text.Blank
import SwitchFabric.Text.Digit
import SwitchFabric.Text.Word

/-!
# Searching for patterns

A pattern is a row of pieces: fixed texts, runs of characters of a class, and choices between words. Some
pieces are fields, whose texts a match yields. A run takes as many characters as it can and gives some
back when the rest of the pattern does not fit behind it; the first word of a choice that works is taken.
A search finds the match that starts first.
-/

namespace SwitchFabric.Text

/-- Part of a pattern. -/
inductive Piece where
  /-- A fixed text. -/
  | text (cs : List Char)
  /-- At least so many characters of a class. -/
  | run (least : Nat) (inside : Char → Bool)
  /-- A run whose text the match yields. -/
  | field (least : Nat) (inside : Char → Bool)
  /-- One of several words, which the match yields. -/
  | word (choices : List (List Char))

/-- Pieces that fit one behind the other. -/
abbrev Pattern := List Piece

/-- Everything but a line feed. -/
def inLine (c : Char) : Bool := c != '\n'

namespace Pattern

/-- The first result of `f` for a length that starts at the given one and falls to `least`. -/
def fromLongest {α : Type} (least : Nat) (f : Nat → Option α) : Nat → Option α
  | 0 => if least = 0 then f 0 else none
  | n + 1 =>
    if n + 1 < least then none
    else
      match f (n + 1) with
      | some a => some a
      | none => fromLongest least f n

/-- The fields of the pattern where it fits the start of a text. -/
def fieldsAt : Pattern → List Char → Option (List (List Char))
  | [], _ => some []
  | .text t :: rest, cs =>
    if t.isPrefixOf cs then fieldsAt rest (cs.drop t.length) else none
  | .run least inside :: rest, cs =>
    fromLongest least (fun n => fieldsAt rest (cs.drop n)) (cs.takeWhile inside).length
  | .field least inside :: rest, cs =>
    fromLongest least (fun n => (fieldsAt rest (cs.drop n)).map (cs.take n :: ·))
      (cs.takeWhile inside).length
  | .word choices :: rest, cs =>
    choices.findSome? fun w =>
      if w.isPrefixOf cs then (fieldsAt rest (cs.drop w.length)).map (w :: ·) else none

/-- The fields of the first match in a text. -/
def find? (p : Pattern) : List Char → Option (List (List Char))
  | [] => p.fieldsAt []
  | c :: cs =>
    match p.fieldsAt (c :: cs) with
    | some fields => some fields
    | none => find? p cs

end Pattern

/-- The runs of decimal digits of a text; `digits` holds the one being read, last digit first. -/
def digitRunsAfter (digits : List Char) : List Char → List (List Char)
  | [] => if digits.isEmpty then [] else [digits.reverse]
  | c :: cs =>
    if isDecimal c then digitRunsAfter (c :: digits) cs
    else if digits.isEmpty then digitRunsAfter [] cs
    else digits.reverse :: digitRunsAfter [] cs

/-- The maximal runs of decimal digits of a text. -/
def digitRuns (cs : List Char) : List (List Char) := digitRunsAfter [] cs

end SwitchFabric.Text
