import SwitchFabric.Text.Blank
import SwitchFabric.Text.Utf8

/-!
# Asking the operator

Before a destructive step the operator is asked, and only the answers `Y` and `yes` are consent. The
questions go to a terminal, where each is answered by a line of its own, or to a list of answers that
was prepared in advance. To run out of answers is an error, not a refusal.
-/

namespace SwitchFabric

/-- Why a question has no answer. -/
inductive PromptError where
  /-- The input ended where an answer was due. -/
  | closed
  /-- The prepared answers are used up. -/
  | noAnswerLeft
  /-- The answer is no text. -/
  | notText (fault : Text.Utf8Fault)
  deriving DecidableEq

/-- The text of an error; that of bytes that are no text says which. -/
def PromptError.message : PromptError → String
  | closed => "input closed at confirmation prompt"
  | noAnswerLeft => "no scripted answer left"
  | notText fault => fault.message

/-- Someone who answers questions, and in doing so changes a state `π`. -/
structure Operator (π : Type) where
  confirm : String → π → Except PromptError Bool × π

/-- Only `Y` and `yes` are consent, with blanks around them or not. -/
def isAffirmative (answer : List Char) : Bool :=
  let word := Text.trim answer
  word == "Y".toList || word == "yes".toList

/-! ## Terminals -/

/-- What is left of a terminal's input, and what has been shown on it. -/
structure Terminal where
  input : List UInt8
  shown : String
  deriving DecidableEq

namespace Terminal

/-- The bytes up to and including the first line feed, and the ones after it. -/
def firstLine : List UInt8 → List UInt8 × List UInt8
  | [] => ([], [])
  | b :: bs =>
    if b == 10 then ([b], bs)
    else
      let (line, rest) := firstLine bs
      (b :: line, rest)

/-- The question as it is shown, with the answers that are understood. -/
def question (message : String) : String := "\n\n" ++ message ++ "\nEnter (Y/yes/n): "

/-- Show a question and read one line. -/
def confirm (message : String) (t : Terminal) : Except PromptError Bool × Terminal :=
  let (line, rest) := firstLine t.input
  let after : Terminal := ⟨rest, t.shown ++ question message⟩
  if line.isEmpty then (.error .closed, after)
  else
    match Text.firstFault? 0 line with
    | some fault => (.error (.notText fault), after)
    | none => (.ok (isAffirmative (Text.decodeLenient line).toList), after)

/-- The operator at a terminal. -/
def operator : Operator Terminal := ⟨confirm⟩

end Terminal

/-! ## Prepared answers -/

/-- Answers still to be given, and the questions asked so far. -/
structure Script where
  answers : List Bool
  asked : List String
  deriving DecidableEq

namespace Script

/-- Answer as prepared, and note the question. -/
def confirm (message : String) (s : Script) : Except PromptError Bool × Script :=
  match s.answers with
  | answer :: answers => (.ok answer, ⟨answers, s.asked ++ [message]⟩)
  | [] => (.error .noAnswerLeft, ⟨[], s.asked ++ [message]⟩)

/-- The operator whose answers are prepared. -/
def operator : Operator Script := ⟨confirm⟩

end Script

end SwitchFabric
