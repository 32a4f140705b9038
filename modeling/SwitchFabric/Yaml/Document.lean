import SwitchFabric.SortedMap
import SwitchFabric.Yaml.Event
import SwitchFabric.Yaml.Token.Lexer

/-!
# Documents as trees

A text holds one document, a tree of scalars, sequences and mappings in which an alias stands for the
node that its anchor marks. Where the text cannot be understood the document breaks off, and the tree
ends in a missing node: what stands before it can still be read, so a fault in it is found first.
-/

namespace SwitchFabric.Yaml

/-- A part of a document with all that stands inside it. -/
inductive Node where
  | scalar (content : Scalar)
  /-- The node with a mark. -/
  | alias (mark : Nat)
  | sequence (tag : Option String) (items : List Node)
  | mapping (tag : Option String) (entries : List (Node × Node))
  /-- The document breaks off here. -/
  | missing

namespace Node

mutual

/-- The document does not break off inside the node. -/
def isWhole : Node → Bool
  | .scalar _ | .alias _ => true
  | .sequence _ items => allWhole items
  | .mapping _ entries => entriesWhole entries
  | .missing => false

/-- The document does not break off inside one of the items. -/
def allWhole : List Node → Bool
  | [] => true
  | item :: items => isWhole item && allWhole items

/-- The document does not break off inside one of the keys and values. -/
def entriesWhole : List (Node × Node) → Bool
  | [] => true
  | (key, value) :: entries => isWhole key && isWhole value && entriesWhole entries

end

/-- What stands where nothing is written. -/
def empty : Node := .scalar ⟨none, "", .plain⟩

end Node

/-! ## Marks -/

/-- An event inside a document, with marks in place of anchors' names. -/
inductive Part where
  | scalar (content : Scalar)
  | alias (mark : Nat)
  | sequenceStart (tag : Option String)
  | sequenceEnd
  | mappingStart (tag : Option String)
  | mappingEnd

/-- The marks given so far: for each anchor name its latest mark, and for each mark its place. A new
mark is the number of names in use, so a name that is used again takes the mark of the next new name,
and of two places with one mark the later counts. -/
structure Marks where
  names : List (String × Nat)
  places : SortedMap Nat Nat

namespace Marks

/-- Nothing is marked yet. -/
def none : Marks := ⟨[], .empty⟩

/-- Mark a place with an anchor, if there is one. -/
def add (anchor : Option String) (place : Nat) (m : Marks) : Marks :=
  match anchor with
  | .none => m
  | some name =>
    let mark := m.names.length
    ⟨(name, mark) :: m.names.filter (·.1 != name), m.places.insert mark place⟩

end Marks

/-- The parts of a document, and the events behind it if it ends as it should. -/
structure Parts where
  parts : List Part
  marks : Marks
  behind : Option (List Event)

/-- The parts up to the document's end. An alias of an unknown anchor breaks the document off. -/
def partsOf (place : Nat) (marks : Marks) : List Event → Parts
  | [] => ⟨[], marks, none⟩
  | .streamStart :: rest | .documentStart :: rest => partsOf place marks rest
  | .streamEnd :: rest => ⟨[], marks, some (.streamEnd :: rest)⟩
  | .documentEnd :: rest => ⟨[], marks, some rest⟩
  | .alias name :: rest =>
    match marks.names.lookup name with
    | some mark => after (.alias mark) (partsOf (place + 1) marks rest)
    | none => ⟨[], marks, none⟩
  | .scalar anchor content :: rest =>
    after (.scalar content) (partsOf (place + 1) (marks.add anchor place) rest)
  | .sequenceStart anchor tag :: rest =>
    after (.sequenceStart tag) (partsOf (place + 1) (marks.add anchor place) rest)
  | .mappingStart anchor tag :: rest =>
    after (.mappingStart tag) (partsOf (place + 1) (marks.add anchor place) rest)
  | .sequenceEnd :: rest => after .sequenceEnd (partsOf (place + 1) marks rest)
  | .mappingEnd :: rest => after .mappingEnd (partsOf (place + 1) marks rest)
where
  after (p : Part) (ps : Parts) : Parts := { ps with parts := p :: ps.parts }

/-! ## Trees -/

mutual

/-- The node at the start of `parts`, and the parts behind it. -/
def nodeOf : Nat → List Part → Node × List Part
  | 0, parts => (.missing, parts)
  | fuel + 1, parts =>
    match parts with
    | .scalar content :: rest => (.scalar content, rest)
    | .alias mark :: rest => (.alias mark, rest)
    | .sequenceStart tag :: rest =>
      let (items, rest) := itemsOf fuel rest
      (.sequence tag items, rest)
    | .mappingStart tag :: rest =>
      let (entries, rest) := entriesOf fuel rest
      (.mapping tag entries, rest)
    | _ => (.missing, [])

/-- The items up to the end of the sequence, and the parts behind that. -/
def itemsOf : Nat → List Part → List Node × List Part
  | 0, parts => ([.missing], parts)
  | fuel + 1, parts =>
    match parts with
    | [] => ([.missing], [])
    | .sequenceEnd :: rest => ([], rest)
    | _ =>
      let (item, rest) := nodeOf fuel parts
      let (items, rest) := itemsOf fuel rest
      (item :: items, rest)

/-- The entries up to the end of the mapping, and the parts behind that. -/
def entriesOf : Nat → List Part → List (Node × Node) × List Part
  | 0, parts => ([(.missing, .missing)], parts)
  | fuel + 1, parts =>
    match parts with
    | [] => ([(.missing, .missing)], [])
    | .mappingEnd :: rest => ([], rest)
    | _ =>
      let (key, rest) := nodeOf fuel parts
      let (value, rest) := nodeOf fuel rest
      let (entries, rest) := entriesOf fuel rest
      ((key, value) :: entries, rest)

end

/-- A document as far as it can be understood. -/
structure Document where
  root : Node
  /-- The nodes that aliases stand for, by mark. -/
  marked : SortedMap Nat Node
  /-- The number of parts. -/
  size : Nat
  /-- The document ends as it should, and the text with it. -/
  closed : Bool

namespace Document

/-- The document that events describe; no events at all describe an empty one. -/
def ofEvents (events : List Event) : Document :=
  let found := partsOf 0 .none events
  let parts := found.parts
  let fuel := 2 * parts.length + 2
  let closed := match found.behind with
    | some [.streamEnd] => true
    | _ => false
  { root := if parts.isEmpty && found.behind.isSome then .empty else (nodeOf fuel parts).1
    marked := .ofList (found.marks.places.entries.map fun (mark, place) =>
      (mark, (nodeOf fuel (parts.drop place)).1))
    size := max parts.length 1
    closed := closed }

/-- The document that a text holds. -/
def ofText (text : List Char) : Document := .ofEvents (Event.ofTokens (Token.ofText text))

end Document

end SwitchFabric.Yaml
