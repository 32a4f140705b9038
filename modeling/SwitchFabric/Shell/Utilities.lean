import SwitchFabric.Text.Blank
import SwitchFabric.Text.Decimal
import SwitchFabric.Text.Utf8

/-!
# Utilities

The small programs that command lines are made of: what they write and the code they end with, given
their arguments and their input.
-/

namespace SwitchFabric.Shell

/-- What a program writes, and the code it ends with. -/
structure Output where
  out : List UInt8
  err : List UInt8
  code : Nat
  deriving DecidableEq

namespace Output

/-- Nothing is written, whatever the code. -/
def ofCode (code : Nat) : Output := ⟨[], [], code⟩

/-- The bytes are written, and all is well. -/
def ofBytes (bytes : List UInt8) : Output := ⟨bytes, [], 0⟩

/-- The text is written, and all is well. -/
def ofText (s : String) : Output := ofBytes (Text.encode s)

/-- A message, and a code other than zero. -/
def failed (message : String) (code : Nat) : Output := ⟨[], Text.encode (message ++ "\n"), code⟩

end Output

/-- Escapes spell bytes in base eight. -/
def isOctal (c : Char) : Bool := '0' ≤ c && c ≤ '7'

/-- The value of octal digits. -/
def octal (cs : List Char) : Nat := cs.foldl (fun n c => n * 8 + (c.toNat - 48)) 0

/-- The byte that a letter behind a backslash stands for. -/
def escapeByte (c : Char) : Option UInt8 :=
  if c == 'a' then some 7
  else if c == 'b' then some 8
  else if c == 't' then some 9
  else if c == 'n' then some 10
  else if c == 'v' then some 11
  else if c == 'f' then some 12
  else if c == 'r' then some 13
  else if c == '\x5c' then some 92
  else none

/-- A character takes up to four bytes. -/
def charBytes (c : Char) : List UInt8 := Text.encode (String.ofList [c])

/-! ## Writing arguments -/

/-- The bytes of a text with its escapes, and whether the escape that ends all output is in it. -/
def echoBytes : Nat → List Char → List UInt8 × Bool
  | 0, _ => ([], false)
  | fuel + 1, cs =>
    let more (bytes : List UInt8) (rest : List Char) : List UInt8 × Bool :=
      let (bs, ended) := echoBytes fuel rest
      (bytes ++ bs, ended)
    match cs with
    | [] => ([], false)
    | '\x5c' :: 'c' :: _ => ([], true)
    | '\x5c' :: '0' :: rest =>
      let digits := (rest.take 3).takeWhile isOctal
      more [UInt8.ofNat (octal digits)] (rest.drop digits.length)
    | '\x5c' :: c :: rest =>
      match escapeByte c with
      | some b => more [b] rest
      | none => more (92 :: charBytes c) rest
    | c :: rest => more (charBytes c) rest

/-- Writes its arguments with a space between two of them. A first argument can keep it from ending
the line. -/
def echo (arguments : List String) : Output :=
  let (newline, words) : List UInt8 × List String := match arguments with
    | "-n" :: rest => ([], rest)
    | words => ([10], words)
  let line := (" ".intercalate words).toList
  let (bytes, ended) := echoBytes (line.length + 1) line
  .ofBytes (if ended then bytes else bytes ++ newline)

/-- The bytes of a format, and the arguments that it leaves. -/
def formatted : Nat → List Char → List String → List UInt8 × List String
  | 0, _, arguments => ([], arguments)
  | fuel + 1, cs, arguments =>
    let more (bytes : List UInt8) (rest : List Char) (arguments : List String) :
        List UInt8 × List String :=
      let (bs, left) := formatted fuel rest arguments
      (bytes ++ bs, left)
    match cs with
    | [] => ([], arguments)
    | '%' :: '%' :: rest => more [37] rest arguments
    | '%' :: c :: rest =>
      if c == 's' || c == 'd' then
        let shown := arguments.headD (if c == 's' then "" else "0")
        more (Text.encode shown) rest arguments.tail
      else more ([37] ++ charBytes c) rest arguments
    | '\x5c' :: c :: rest =>
      if isOctal c then
        let digits := ((c :: rest).take 3).takeWhile isOctal
        more [UInt8.ofNat (octal digits)] ((c :: rest).drop digits.length) arguments
      else
        match escapeByte c with
        | some b => more [b] rest arguments
        | none => more (92 :: charBytes c) rest arguments
    | c :: rest => more (charBytes c) rest arguments

/-- The format, again and again until it leaves no argument. -/
def formatAll (format : List Char) : Nat → List String → List UInt8
  | 0, _ => []
  | fuel + 1, arguments =>
    let (bytes, left) := formatted (format.length + 1) format arguments
    if left.isEmpty || left.length == arguments.length then bytes
    else bytes ++ formatAll format fuel left

/-- Writes by a format, which it must be given. -/
def printf : List String → Output
  | [] => .failed "/bin/sh: 1: printf: usage: printf format [arg ...]" 2
  | format :: arguments => .ofBytes (formatAll format.toList (arguments.length + 1) arguments)

/-! ## Passing input on -/

/-- The input in place of each hyphen among the arguments, or once without any. There are no files here
that the other arguments could name. -/
def cat (arguments : List String) (input : List UInt8) : Output :=
  let missing := arguments.filter (· != "-")
  let errors := missing.map fun a => "cat: " ++ a ++ ": No such file or directory\n"
  ⟨if missing.length == arguments.length && !missing.isEmpty then [] else input,
    Text.encode (String.join errors), if missing.isEmpty then 0 else 1⟩

/-- The lines of an input, each with its line feed. -/
def inputLines : List UInt8 → List (List UInt8)
  | [] => []
  | b :: bs =>
    if b == 10 then [b] :: inputLines bs
    else
      match inputLines bs with
      | [] => [[b]]
      | l :: ls => (b :: l) :: ls

/-- The number of lines that the options of `head` ask for. -/
def headCount : List String → Nat
  | ["-n", n] => (Text.value? n.toList).getD 10
  | [option] => (Text.value? (option.toList.dropWhile fun c => c == '-' || c == 'n')).getD 10
  | _ => 10

/-- Passes on the first lines, ten of them if it is not told. -/
def head (arguments : List String) (input : List UInt8) : Output :=
  .ofBytes ((inputLines input).take (headCount arguments)).flatten

/-- The bytes of a set of characters. -/
def characterSet (s : String) : List UInt8 := (formatted (s.length + 1) s.toList []).1

/-- Replace each byte of the first set by the one at its place in the second, whose last byte stands for
all further places; or delete the bytes of the set. -/
def tr (arguments : List String) (input : List UInt8) : Output :=
  match arguments with
  | ["-d", set] =>
    let set := characterSet set
    .ofBytes (input.filter fun b => !set.contains b)
  | [first, second] =>
    let first := characterSet first
    let second := characterSet second
    .ofBytes (input.map fun b =>
      match first.idxOf? b with
      | some i => (second[i]?).getD (second.getLast?.getD b)
      | none => b)
  | _ => .failed "tr: missing operand" 1

/-- The numbers from one to another, a line each. -/
def seq (arguments : List String) : Output :=
  let range (first last : Nat) : Output :=
    .ofText (String.join ((List.range' first (last + 1 - first)).map fun n => Text.decimal n ++ "\n"))
  match arguments.map fun a => Text.value? a.toList with
  | [some last] => range 1 last
  | [some first, some last] => range first last
  | _ => .failed "seq: invalid arguments" 1

/-! ## Dumping bytes -/

/-- A number in octal, with leading zeros up to a width. -/
def octalDigits (width n : Nat) : List Char :=
  let ds := Nat.toDigits 8 n
  List.replicate (width - ds.length) '0' ++ ds

/-- A byte in a column of four characters. -/
def dumpedByte (b : UInt8) : List Char :=
  let n := b.toNat
  let escape := [(0, '0'), (7, 'a'), (8, 'b'), (9, 't'), (10, 'n'), (11, 'v'), (12, 'f'), (13, 'r')]
  match escape.lookup n with
  | some c => "  \x5c".toList ++ [c]
  | none =>
    if 0x20 ≤ n && n < 0x7f then "   ".toList ++ [Char.ofNat n] else ' ' :: octalDigits 3 n

/-- The lines of a dump, each of sixteen bytes behind their place, and the place of the end. -/
def dumped : Nat → Nat → List UInt8 → List Char
  | 0, _, _ => []
  | fuel + 1, place, bytes =>
    let line := bytes.take 16
    let start := octalDigits 7 place
    if line.isEmpty then start ++ ['\n']
    else
      start ++ line.flatMap dumpedByte ++ '\n' :: dumped fuel (place + line.length) (bytes.drop 16)

/-- The bytes of the input as characters. -/
def od (input : List UInt8) : Output :=
  .ofText (String.ofList (dumped (input.length + 1) 0 input))

/-! ## All of them -/

/-- The utility with a name. -/
def utility (name : String) : Option (List String → List UInt8 → Output) :=
  [("echo", fun arguments _ => echo arguments),
   ("printf", fun arguments _ => printf arguments),
   ("true", fun _ _ => .ofCode 0),
   (":", fun _ _ => .ofCode 0),
   ("false", fun _ _ => .ofCode 1),
   ("sleep", fun _ _ => .ofCode 0),
   ("cat", cat),
   ("head", head),
   ("tr", tr),
   ("seq", fun arguments _ => seq arguments),
   ("od", fun _ input => od input)].lookup name

end SwitchFabric.Shell
