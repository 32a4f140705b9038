import SwitchFabric.Text.Literal
import SwitchFabric.Yaml.Document
import SwitchFabric.Yaml.Value

/-!
# Reading a document

Readers take a node to a value or find a fault. They go through a document in its own order, so the
fault reported is the first. Following an alias costs a step, and a document has a hundred steps for
each of its parts, which bounds what nested aliases can expand to.
-/

namespace SwitchFabric.Yaml

/-- Why a document was not read: a reason about its content, or none for what is no matter of content,
such as its syntax or the kind of a node. -/
structure Fault where
  reason : Option String
  deriving DecidableEq

/-- Read in a document, counting the aliases followed. -/
abbrev Read (α : Type) := ReaderT Document (StateT Nat (Except Fault)) α

namespace Read

/-- A fault that is no matter of content. -/
def refuse : Read α := throw ⟨none⟩

/-- The content is at fault, for the given reason. -/
def refuseFor (reason : String) : Read α := throw ⟨some reason⟩

/-- The node itself, or the one that it is an alias of. -/
def follow (n : Node) : Read Node :=
  match n with
  | .alias mark => do
    let document ← read
    let steps := (← get) + 1
    set steps
    if document.size * 100 < steps then refuse
    else return (document.marked.get? mark).getD .missing
  | _ => return n

/-- Read over a node. Only a document that breaks off inside it is a fault. -/
def ignore (n : Node) : Read Unit := if n.isWhole then pure () else refuse

/-! ## Scalars -/

/-- The node must be a scalar, or an alias of one. -/
def scalar (n : Node) : Read Scalar := do
  match ← follow n with
  | .scalar content => return content
  | _ => refuse

/-- The text of any scalar. -/
def text (n : Node) : Read String := do return (← scalar n).text

/-- The text of a scalar that may be a number or truth value: a plain one, or a literal block with the
tag of that kind. -/
def bareText (tag : String) (n : Node) : Read String := do
  let s ← scalar n
  if s.style == .plain || (s.style == .literal && s.tag == some tag) then return s.text else refuse

/-- A whole number up to `limit`. -/
def number (limit : Nat) (n : Node) : Read Nat := do
  match unsigned? limit (← bareText "tag:yaml.org,2002:int" n).toList with
  | some k => return k
  | none => refuse

/-- A truth value. -/
def flag (n : Node) : Read Bool := do
  match bool? (← bareText "tag:yaml.org,2002:bool" n) with
  | some b => return b
  | none => refuse

/-- Nothing is written: a plain scalar without text, whatever its tag. -/
def isBlank (s : Scalar) : Bool := s.style == .plain && s.text.isEmpty

/-- The tag that stands for an absent value. -/
def nullTag : String := "tag:yaml.org,2002:null"

/-- A value that may be absent: written as a plain null, or not at all. A tag makes it present, except
the tag of null, which only a null may have. -/
def optional (item : Node → Read α) (n : Node) : Read (Option α) := do
  let n ← follow n
  match n with
  | .scalar ⟨tag, text, .plain⟩ =>
    if tag == some nullTag then
      if isNull text then return none else refuse
    else if tag.isNone && (text.isEmpty || isNull text) then return none
    else return some (← item n)
  | _ => return some (← item n)

/-! ## Sequences and mappings -/

/-- A sequence; nothing written is an empty one. -/
def list (item : Node → Read α) (n : Node) : Read (List α) := do
  match ← follow n with
  | .sequence _ items => items.mapM item
  | .scalar s => if isBlank s then return [] else refuse
  | _ => refuse

/-- A field of a record `ρ`. -/
structure Field (ρ : Type) where
  name : String
  required : Bool
  /-- Read the field's value into the record. -/
  take : Node → ρ → Read ρ

/-- A field that must be given. -/
def Field.needed (name : String) (item : Node → Read α) (put : α → ρ → ρ) : Field ρ :=
  ⟨name, true, fun n r => do return put (← item n) r⟩

/-- A field that keeps its default value when it is not given. -/
def Field.defaulted (name : String) (item : Node → Read α) (put : α → ρ → ρ) : Field ρ :=
  ⟨name, false, fun n r => do return put (← item n) r⟩

/-- A field that is absent when it is not given. -/
def Field.optional (name : String) (item : Node → Read α) (put : Option α → ρ → ρ) : Field ρ :=
  .defaulted name (Read.optional item) put

/-- Read entries into a record. Unknown keys are passed over, a known key may be given once. `seen`
are the known keys given so far, and the result has all of them. -/
def entries (fields : List (Field ρ)) (seen : List String) (r : ρ) :
    List (Node × Node) → Read (List String × ρ)
  | [] => return (seen, r)
  | (key, value) :: rest => do
    let name ← text key
    match fields.find? (·.name == name) with
    | none =>
      ignore value
      entries fields seen r rest
    | some field =>
      if seen.contains name then refuse
      else
        let r ← field.take value r
        entries fields (name :: seen) r rest

/-- The reason when a required field is not given. -/
def missingField (name : String) : String := "missing field \x60" ++ name ++ "\x60"

/-- A record, from a mapping; nothing written is an empty mapping. The first required field that is
not given is missing. -/
def record (fields : List (Field ρ)) (start : ρ) (n : Node) : Read ρ := do
  let given ← match ← follow n with
    | .mapping _ given => pure given
    | .scalar s => if isBlank s then pure [] else refuse
    | _ => refuse
  let (seen, r) ← entries fields [] start given
  match fields.find? fun field => field.required && !seen.contains field.name with
  | some field => refuseFor (missingField field.name)
  | none => return r

/-! ## Choices -/

/-- The name in a tag of one exclamation mark. -/
def localTag : Option String → Option String
  | none => none
  | some tag =>
    match tag.toList with
    | ['!'] => some tag
    | '!' :: name => some (String.ofList name)
    | _ => none

/-- One of several names. -/
def named (choices : List (String × α)) (name : String) : Read α :=
  match choices.lookup name with
  | some a => return a
  | none =>
    let quoted := choices.map fun c => "\x60" ++ c.1 ++ "\x60"
    refuseFor ("unknown variant \x60" ++ name ++ "\x60, expected " ++ " or ".intercalate quoted)

/-- One of several names, written as a text or as the tag of an empty node. -/
def choice (choices : List (String × α)) (n : Node) : Read α := do
  match ← follow n with
  | .scalar s =>
    match localTag s.tag with
    | some name =>
      let a ← named choices name
      if s.style == .plain && (s.text.isEmpty || isNull s.text) then return a else refuse
    | none => named choices s.text
  | .sequence tag _ | .mapping tag _ =>
    match localTag tag with
    | some name =>
      let _ ← named choices name
      refuse
    | none => refuse
  | _ => refuse

/-! ## Uninterpreted values -/

/-- A plain scalar without a tag as a value. A whole number of more than 64 bits has none. -/
def plainValue (s : String) : Read Value :=
  match resolve s with
  | .null => return .null
  | .bool b => return .bool b
  | .whole (.fits n) => return .int n
  | .whole .wide => refuse
  | .real x => return .real x
  | .text => return .string s

/-- A scalar as a value. `tagged` tells that its tag is taken account of already. -/
def scalarValue (tagged : Bool) (s : Scalar) : Read Value :=
  let untagged : Read Value := if s.style == .plain then plainValue s.text else return .string s.text
  if tagged then untagged
  else
    match s.tag with
    | none => untagged
    | some "tag:yaml.org,2002:bool" =>
      match bool? s.text with
      | some b => return .bool b
      | none => refuse
    | some "tag:yaml.org,2002:int" =>
      match whole? s.text.toList with
      | some (.fits n) => return .int n
      | _ => refuse
    | some "tag:yaml.org,2002:float" =>
      match real? s.text.toList with
      | some x => return .real x
      | none => refuse
    | some "tag:yaml.org,2002:null" => if isNull s.text then return .null else refuse
    | some _ => return .string s.text

/-- The entries of a mapping, in which no key may come twice, after the entries `given`. -/
def distinctEntries (item : Node → Read Value) (given : List (Value × Value)) :
    List (Node × Node) → Read (List (Value × Value))
  | [] => return given
  | (key, content) :: rest => do
    let key ← item key
    if given.any fun entry => entry.1 == key then refuse
    else
      let content ← item content
      distinctEntries item (given ++ [(key, content)]) rest

/-- The name of the type that a node is given. -/
def typeName : Node → Option String
  | .scalar s => localTag s.tag
  | .sequence tag _ | .mapping tag _ => localTag tag
  | .alias _ | .missing => none

/-- A node as a value, whatever type it is given. `inner` reads what stands inside a collection; without it there may be
none. `tagged` tells that the type is taken account of already. -/
def content (inner : Option (Node → Read Value)) (tagged : Bool) (n : Node) : Read Value :=
  match n, inner with
  | .scalar s, _ => scalarValue tagged s
  | .sequence _ items, some item => do return .sequence (← items.mapM item)
  | .mapping _ given, some item => do return .mapping (← distinctEntries item [] given)
  | _, _ => refuse

/-- A node as a value of the type that it is given. -/
def typed (inner : Option (Node → Read Value)) (n : Node) : Read Value := do
  let n ← follow n
  let v ← content inner (typeName n).isSome n
  match typeName n with
  | some name => return .tagged name v
  | none => return v

/-- Any node as a value, nested at most `depth` deep. -/
def value : Nat → Node → Read Value
  | 0 => typed none
  | depth + 1 => typed (some (value depth))

end Read

/-- What a reader makes of a text, which must hold one whole document. -/
def readText (item : Node → Read α) (text : List Char) : Except Fault α := do
  let document := Document.ofText text
  let (a, _) ← (item document.root).run document |>.run 0
  if document.closed then return a else throw ⟨none⟩

end SwitchFabric.Yaml
