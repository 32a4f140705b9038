import SwitchFabric.Text.Printable

/-!
# Quoted texts

A text as a quoted literal: double quotes around it, a backslash before a quote or a backslash,
short escapes for the common controls, and the code point in braces for every other character that
would not be seen.
-/

namespace SwitchFabric.Text

/-- The code point of `c` in small hexadecimal digits between braces. -/
def codePointEscape (c : Char) : List Char :=
  "\x5cu\x7b".toList ++ Nat.toDigits 16 c.toNat ++ ['\x7d']

/-- One character of a quoted literal. -/
def literalChar (c : Char) : List Char :=
  if c == '\x22' || c == '\x5c' then ['\x5c', c]
  else if c == '\n' then ['\x5c', 'n']
  else if c == '\r' then ['\x5c', 'r']
  else if c == '\t' then ['\x5c', 't']
  else if c.toNat == 0 then ['\x5c', '0']
  else if extendsGrapheme c || !isPrintable c then codePointEscape c
  else [c]

/-- `s` as a quoted literal. -/
def literal (s : String) : String :=
  String.ofList ('\x22' :: s.toList.flatMap literalChar ++ ['\x22'])

/-- A list of texts in brackets. -/
def bracketed (items : List String) : String :=
  "[" ++ ", ".intercalate items ++ "]"

end SwitchFabric.Text
