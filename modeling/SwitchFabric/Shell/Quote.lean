/-!
# Quoting for the shell

A text in double quotes, with a backslash before every character that means something there.
-/

namespace SwitchFabric.Shell

/-- Characters that double quotes do not protect. -/
def needsBackslash (c : Char) : Bool :=
  c == '$' || c == '\x60' || c == '\x22' || c == '\x5c' || c == '\n'

/-- One character inside double quotes. -/
def quotedChar (c : Char) : List Char := if needsBackslash c then ['\x5c', c] else [c]

/-- A text as one word of a command line. -/
def quote (cs : List Char) : List Char := '\x22' :: cs.flatMap quotedChar ++ ['\x22']

end SwitchFabric.Shell
