/-!
# The command line

The program takes one option, the path of the cluster definition, and words that say what to do with it
and how much to report. Arguments are read from left to right, and the first that is at fault, or asks for
the version or for help, decides. A value that an option still lacks is a fault as well.
-/

namespace SwitchFabric

/-- A word for an action or for a level of reports. -/
inductive Word where
  | gather
  | deconfigure
  | info
  | debug
  | warning
  deriving DecidableEq

/-- Deconfiguring has two short forms besides its full one. -/
def Word.ofText? (s : String) : Option Word :=
  [("gather", .gather), ("deconfigure", .deconfigure), ("deconfig", .deconfigure),
   ("de", .deconfigure), ("info", .info), ("debug", .debug), ("warning", .warning)].lookup s

/-- What to do with the fabric. -/
inductive Goal where
  | gather
  | configure
  | deconfigure
  deriving DecidableEq

/-- What the command line asks for, once all of it was read. -/
structure Arguments where
  /-- The path of the cluster definition, where the command line gives one. -/
  config : Option String
  words : List Word
  deriving DecidableEq

/-- Why the command line is not carried out. -/
inductive Refusal where
  | usage
  | version
  | help
  deriving DecidableEq

namespace Arguments

/-- Nothing asked for yet. -/
def none : Arguments := ⟨.none, []⟩

/-- Gathering wins over deconfiguring, and without a word for an action the fabric is configured. -/
def goal (a : Arguments) : Goal :=
  if a.words.contains .gather then .gather
  else if a.words.contains .deconfigure then .deconfigure
  else .configure

/-! ## Reading -/

/-- A word that is not known is at fault. -/
def addWord (s : String) (a : Arguments) : Except Refusal Arguments :=
  match Word.ofText? s with
  | some w => .ok { a with words := a.words ++ [w] }
  | .none => .error .usage

/-- The path may be given once, and is not empty. -/
def setConfig (path : String) (a : Arguments) : Except Refusal Arguments :=
  if path.isEmpty || a.config.isSome then .error .usage else .ok { a with config := some path }

/-- An argument that is an option or the mark behind which there are none: it starts with a hyphen, and
is not only that. -/
def isOption (s : String) : Bool :=
  match s.toList with
  | '-' :: _ :: _ => true
  | _ => false

/-- The path in an argument that holds the option and its value. -/
def attachedConfig? (s : String) : Option String :=
  let option := "--config=".toList
  if option.isPrefixOf s.toList then some (String.ofList (s.toList.drop option.length)) else .none

/-- The refusal that an option other than the path stands for. Letters after one hyphen are options of
their own, of which the first counts. -/
def refusalOf (s : String) : Refusal :=
  if s == "--version" then .version
  else if s == "--help" then .help
  else
    match s.toList with
    | '-' :: 'V' :: _ => .version
    | '-' :: 'h' :: _ => .help
    | _ => .usage

/-- Read arguments after those read so far. -/
def readFrom (a : Arguments) : List String → Except Refusal Arguments
  | [] => .ok a
  | "--" :: rest => rest.foldlM (fun a s => a.addWord s) a
  | "--config" :: rest =>
    match rest with
    | [] => .error .usage
    | path :: rest =>
      if isOption path then .error .usage
      else (a.setConfig path).bind fun a => a.readFrom rest
  | s :: rest =>
    match attachedConfig? s with
    | some path => (a.setConfig path).bind fun a => a.readFrom rest
    | .none =>
      if isOption s then .error (refusalOf s)
      else (a.addWord s).bind fun a => a.readFrom rest

/-- What all arguments together ask for, or the refusal that the first faulty one stands for. -/
def read (arguments : List String) : Except Refusal Arguments := none.readFrom arguments

end Arguments

end SwitchFabric
