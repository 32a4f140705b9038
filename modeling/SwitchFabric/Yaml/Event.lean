import SwitchFabric.Yaml.Token

/-!
# The events of a document

The nesting of a document as a list of events. Reading one event needs a token or two of lookahead, a
stage that says what may come next, and the stages to return to. Tokens that do not fit, and a token
list that breaks off, end the events.
-/

namespace SwitchFabric.Yaml

/-- A scalar as written. The empty tag `!` on a scalar is dropped with the mark it leaves. -/
structure Scalar where
  tag : Option String
  text : String
  style : ScalarStyle
  deriving DecidableEq

/-- A step through the nesting of a document: a leaf, or one end of a collection. -/
inductive Event where
  | streamStart
  | streamEnd
  | documentStart
  | documentEnd
  | alias (name : String)
  | scalar (anchor : Option String) (content : Scalar)
  | sequenceStart (anchor tag : Option String)
  | sequenceEnd
  | mappingStart (anchor tag : Option String)
  | mappingEnd

/-- What may come next. -/
inductive Stage where
  | stream
  | firstDocument
  | document
  | content
  | documentEnd
  | blockNode
  | blockItem
  | plainItem
  | blockKey
  | blockValue
  | flowItem (first : Bool)
  | pairKey
  | pairValue
  | pairEnd
  | flowKey (first : Bool)
  | flowValue
  | flowNoValue
  | finished

/-- How far reading events has come. -/
structure EventReader where
  stage : Stage
  /-- The stages to return to, innermost first. -/
  stack : List Stage
  tokens : List Token
  /-- What the tag handles of the document stand for, latest first. -/
  handles : List (String × String)

namespace EventReader

/-- Go to a stage. -/
def goTo (stage : Stage) (p : EventReader) : EventReader := { p with stage := stage }

/-- Return to the stage that waits. -/
def goBack (p : EventReader) : EventReader :=
  match p.stack with
  | stage :: stack => { p with stage := stage, stack := stack }
  | [] => { p with stage := .finished }

/-- Have a stage wait. -/
def wait (stage : Stage) (p : EventReader) : EventReader := { p with stack := stage :: p.stack }

/-- Leave the first token behind. -/
def drop (p : EventReader) : EventReader := { p with tokens := p.tokens.tail }

/-- One event and what is left to read after it. -/
abbrev Step := Option (Event × EventReader)

/-- The scalar that stands where nothing is written. -/
def emptyScalar (p : EventReader) : Step := some (.scalar none ⟨none, "", .plain⟩, p)

/-! ## Tags -/

/-- The tag that a handle and a suffix stand for; a handle that is not declared has none. -/
def expandTag (handles : List (String × String)) (handle suffix : String) : Option String :=
  if handle.isEmpty then some suffix
  else (handles.lookup handle).map (· ++ suffix)

/-- The handles that a document has without declaring them. -/
def defaultHandles : List (String × String) := [("!", "!"), ("!!", "tag:yaml.org,2002:")]

/-! ## Nodes -/

/-- The anchor and the tag at the start of a node, in either order. -/
def properties (handles : List (String × String)) (tokens : List Token) :
    Option (Option String × Option String × List Token) :=
  match tokens with
  | .anchor name :: .tag handle suffix :: rest =>
    (expandTag handles handle suffix).map fun t => (some name, some t, rest)
  | .tag handle suffix :: .anchor name :: rest =>
    (expandTag handles handle suffix).map fun t => (some name, some t, rest)
  | .anchor name :: rest => some (some name, none, rest)
  | .tag handle suffix :: rest => (expandTag handles handle suffix).map fun t => (none, some t, rest)
  | _ => some (none, none, tokens)

/-- The node that starts at the next token. Outside brackets it may be a block collection, and as an
entry of a block mapping a sequence without indentation of its own. -/
def node (block : Bool) (unindented : Bool) (p : EventReader) : Step :=
  match p.tokens with
  | .alias name :: rest => some (.alias name, goBack { p with tokens := rest })
  | _ => do
    let (anchor, tag, tokens) ← properties p.handles p.tokens
    let start (event : Event) (stage : Stage) (rest : List Token) : Step :=
      some (event, { p with tokens := rest, stage := stage })
    match tokens with
    | [] => none
    | .blockEntry :: _ =>
      if unindented then start (.sequenceStart anchor tag) .plainItem tokens
      else if anchor.isSome || tag.isSome then
        some (.scalar anchor ⟨tag, "", .plain⟩, goBack { p with tokens := tokens })
      else none
    | .scalar text style :: rest =>
      let tag := if tag == some "!" then none else tag
      some (.scalar anchor ⟨tag, text, style⟩, goBack { p with tokens := rest })
    | .flowSequenceStart :: rest => start (.sequenceStart anchor tag) (.flowItem true) rest
    | .flowMappingStart :: rest => start (.mappingStart anchor tag) (.flowKey true) rest
    | token :: rest =>
      if block && token == .blockSequenceStart then
        start (.sequenceStart anchor tag) .blockItem rest
      else if block && token == .blockMappingStart then
        start (.mappingStart anchor tag) .blockKey rest
      else if anchor.isSome || tag.isSome then
        some (.scalar anchor ⟨tag, "", .plain⟩, goBack { p with tokens := tokens })
      else none

/-- The node at the next token unless that is one of `stops`, where nothing is written. -/
def nodeUnless (stops : List Token) (block unindented : Bool) (back : Stage) (p : EventReader) : Step :=
  match p.tokens with
  | [] => none
  | token :: _ =>
    if stops.contains token then emptyScalar (p.goTo back)
    else node block unindented (p.wait back)

/-! ## Documents -/

/-- The versions of the format that are read. -/
def isCompatible (major minor : Nat) : Bool := major == 1 && (minor == 1 || minor == 2)

/-- The directives at the start of a document: the tag handles they declare and the tokens behind. -/
def directives : Bool → List (String × String) → List Token →
    Option (List (String × String) × List Token)
  | versioned, handles, .versionDirective major minor :: rest =>
    if versioned || !isCompatible major minor then none else directives true handles rest
  | versioned, handles, .tagDirective handle expansion :: rest =>
    if (handles.lookup handle).isSome then none
    else directives versioned ((handle, expansion) :: handles) rest
  | _, handles, tokens => some (handles ++ defaultHandles, tokens)

/-- The start of a document with a mark, or the end of the stream. -/
def documentStart (p : EventReader) : Step :=
  match p.tokens with
  | [] => none
  | .streamEnd :: rest => some (.streamEnd, { p with stage := .finished, tokens := rest })
  | _ => do
    let (handles, tokens) ← directives false [] p.tokens
    match tokens with
    | .documentStart :: rest =>
      some (.documentStart,
        { p with stage := .content, stack := .documentEnd :: p.stack, tokens := rest
                 handles := handles })
    | _ => none

/-- The first document needs no mark, unless it has directives. -/
def firstDocument (p : EventReader) : Step :=
  match p.tokens with
  | [] => none
  | .versionDirective _ _ :: _ | .tagDirective _ _ :: _ | .documentStart :: _ | .streamEnd :: _ =>
    p.documentStart
  | _ =>
    some (.documentStart,
      { p with stage := .blockNode, stack := .documentEnd :: p.stack, handles := defaultHandles })

/-- The root of a document behind its mark, which may be left out. -/
def documentContent (p : EventReader) : Step :=
  match p.tokens with
  | [] => none
  | .versionDirective _ _ :: _ | .tagDirective _ _ :: _ | .documentStart :: _ | .documentEnd :: _
  | .streamEnd :: _ => emptyScalar p.goBack
  | _ => p.node true false

/-! ## Blocks -/

/-- An item of a sequence with indentation of its own, or its end. -/
def blockItem (p : EventReader) : Step :=
  match p.tokens with
  | .blockEntry :: rest =>
    nodeUnless [.blockEntry, .blockEnd] true false .blockItem { p with tokens := rest }
  | .blockEnd :: rest => some (.sequenceEnd, goBack { p with tokens := rest })
  | _ => none

/-- An item of a sequence without indentation of its own, which ends at whatever is no item. -/
def plainItem (p : EventReader) : Step :=
  match p.tokens with
  | [] => none
  | .blockEntry :: rest =>
    nodeUnless [.blockEntry, .key, .value, .blockEnd] true false .plainItem { p with tokens := rest }
  | _ => some (.sequenceEnd, p.goBack)

/-- A key of a block mapping, which must be marked as one, or the end of the mapping. -/
def blockKey (p : EventReader) : Step :=
  match p.tokens with
  | .key :: rest =>
    nodeUnless [.key, .value, .blockEnd] true true .blockValue { p with tokens := rest }
  | .blockEnd :: rest => some (.mappingEnd, goBack { p with tokens := rest })
  | _ => none

/-- The value of a key in a block mapping. A key may stand without one. -/
def blockValue (p : EventReader) : Step :=
  match p.tokens with
  | [] => none
  | .value :: rest =>
    nodeUnless [.key, .value, .blockEnd] true true .blockKey { p with tokens := rest }
  | _ => emptyScalar (p.goTo .blockKey)

/-! ## Brackets -/

/-- The tokens after the comma that every entry but the first needs. -/
def afterComma (first : Bool) (tokens : List Token) : Option (List Token) :=
  if first then some tokens
  else
    match tokens with
    | .flowEntry :: rest => some rest
    | _ => none

/-- An item between square brackets, or the closing bracket. A comma may stand before that. A key
starts a single pair. -/
def flowItem (first : Bool) (p : EventReader) : Step :=
  match p.tokens with
  | .flowSequenceEnd :: rest => some (.sequenceEnd, goBack { p with tokens := rest })
  | tokens => do
    match ← afterComma first tokens with
    | [] => none
    | .flowSequenceEnd :: rest => some (.sequenceEnd, goBack { p with tokens := rest })
    | .key :: rest => some (.mappingStart none none, { p with stage := .pairKey, tokens := rest })
    | tokens => node false false (wait (.flowItem false) { p with tokens := tokens })

/-- The key of a single pair between square brackets; where it is left out, the mark that follows the
question mark goes with it. -/
def pairKey (p : EventReader) : Step :=
  match p.tokens with
  | [] => none
  | .value :: _ | .flowEntry :: _ | .flowSequenceEnd :: _ => emptyScalar (p.drop.goTo .pairValue)
  | _ => node false false (p.wait .pairValue)

/-- The value of a single pair, which may be left out. -/
def pairValue (p : EventReader) : Step :=
  match p.tokens with
  | [] => none
  | .value :: rest =>
    nodeUnless [.flowEntry, .flowSequenceEnd] false false .pairEnd { p with tokens := rest }
  | _ => emptyScalar (p.goTo .pairEnd)

/-- A single pair ends behind its value, without a token of its own. -/
def pairEnd (p : EventReader) : Step :=
  if p.tokens.isEmpty then none else some (.mappingEnd, p.goTo (.flowItem false))

/-- A key between braces, or the closing brace. What is not marked as a key stands for one without a
value. -/
def flowKey (first : Bool) (p : EventReader) : Step :=
  match p.tokens with
  | .flowMappingEnd :: rest => some (.mappingEnd, goBack { p with tokens := rest })
  | tokens => do
    match ← afterComma first tokens with
    | [] => none
    | .flowMappingEnd :: rest => some (.mappingEnd, goBack { p with tokens := rest })
    | .key :: rest =>
      nodeUnless [.value, .flowEntry, .flowMappingEnd] false false .flowValue { p with tokens := rest }
    | tokens => node false false (wait .flowNoValue { p with tokens := tokens })

/-- The value of a key between braces, which may be left out. -/
def flowValue (p : EventReader) : Step :=
  match p.tokens with
  | [] => none
  | .value :: rest =>
    nodeUnless [.flowEntry, .flowMappingEnd] false false (.flowKey false) { p with tokens := rest }
  | _ => emptyScalar (p.goTo (.flowKey false))

/-- The empty value of a key that is not marked as one. -/
def flowNoValue (p : EventReader) : Step :=
  if p.tokens.isEmpty then none else emptyScalar (p.goTo (.flowKey false))

/-! ## All events -/

/-- The next event. -/
def step (p : EventReader) : Step :=
  match p.stage with
  | .stream =>
    match p.tokens with
    | .streamStart :: rest => some (.streamStart, { p with stage := .firstDocument, tokens := rest })
    | _ => none
  | .firstDocument => p.firstDocument
  | .document => { p with tokens := p.tokens.dropWhile (· == Token.documentEnd) }.documentStart
  | .content => p.documentContent
  | .documentEnd =>
    match p.tokens with
    | [] => none
    | .documentEnd :: rest => some (.documentEnd, { p with stage := .document, tokens := rest })
    | _ => some (.documentEnd, p.goTo .document)
  | .blockNode => p.node true false
  | .blockItem => p.blockItem
  | .plainItem => p.plainItem
  | .blockKey => p.blockKey
  | .blockValue => p.blockValue
  | .flowItem first => p.flowItem first
  | .pairKey => p.pairKey
  | .pairValue => p.pairValue
  | .pairEnd => p.pairEnd
  | .flowKey first => p.flowKey first
  | .flowValue => p.flowValue
  | .flowNoValue => p.flowNoValue
  | .finished => none

/-- The events up to the end of the stream or to tokens that do not fit. -/
def run : Nat → EventReader → List Event
  | 0, _ => []
  | fuel + 1, p =>
    match p.step with
    | none => []
    | some (event, p) => event :: run fuel p

end EventReader

/-- The events of a document. A token leads to at most four of them. -/
def Event.ofTokens (tokens : List Token) : List Event :=
  EventReader.run (4 * tokens.length + 8) ⟨.stream, [], tokens, EventReader.defaultHandles⟩

end SwitchFabric.Yaml
