import OlmProvision.Yaml.Scanner

/-
The second stage of reading YAML: turning tokens into events.

    text ──tokenize──▶ tokens ──parse──▶ events ──compose──▶ documents

The parser is a state machine with a stack of states to return to. Each step looks at the next
token and produces one event: the start or end of the stream, of a document, of a sequence or
of a mapping, a scalar, or an alias. A document is explicit (`---`, after directives) or
implicit; its content is one node, or an empty scalar. A node has an optional anchor and tag (in
either order) and then content: a scalar, a flow or block collection, a sequence of `- ` entries
at the indentation of the mapping key it belongs to, or, when it has an anchor or tag, nothing
(an empty scalar `""`). A missing key or value, and an empty document, is the plain scalar `~`.

Anchors are numbered from 1 as they are met; an alias names the latest anchor of its name in the
same document and refers to it by number. Tags on collections are dropped; scalars keep theirs.

In a flow sequence, `? key : value` and `key: value` entries are one-entry mappings. After a
`?` that opens such an entry, a `:`, `,` or `]` right away is taken for the empty key and also
consumed.
-/
namespace OlmProvision.Yaml

/-- The states of the parser: what it expects next. -/
inductive ParseState where
  | streamStart
  | implicitDocumentStart
  | documentStart
  | documentContent
  | documentEnd
  | blockNode
  | blockSequenceFirstEntry
  | blockSequenceEntry
  | indentlessSequenceEntry
  | blockMappingFirstKey
  | blockMappingKey
  | blockMappingValue
  | flowSequenceFirstEntry
  | flowSequenceEntry
  | flowSequenceEntryMappingKey
  | flowSequenceEntryMappingValue
  | flowSequenceEntryMappingEnd
  | flowMappingFirstKey
  | flowMappingKey
  | flowMappingValue
  | flowMappingEmptyValue
  | finished
deriving DecidableEq, Repr, Inhabited

/-- An event of a YAML stream. Anchor number 0 means no anchor. -/
inductive Event where
  | streamStart
  | streamEnd
  | documentStart
  | documentEnd
  | aliasOf (id : Nat)
  | scalar (text : String) (style : ScalarStyle) (anchor : Nat) (tag : Option Tag)
  | sequenceStart (anchor : Nat)
  | sequenceEnd
  | mappingStart (anchor : Nat)
  | mappingEnd
deriving Repr, Inhabited

/-- The parser: the tokens left, the current state and the states to return to, and the
anchors of the current document with the next anchor number. -/
structure Parser where
  tokens : List Token
  state : ParseState
  states : List ParseState
  anchors : List (String × Nat)
  nextAnchor : Nat
deriving Inhabited

namespace Parser

/-- A step's result: an event and the parser after it. -/
abbrev Step := Except ReadError (Event × Parser)

/-- The next token. -/
def peek (p : Parser) : Except ReadError Token :=
  match p.tokens with
  | t :: _ => .ok t
  | [] => .error ⟨⟨0, 0, 0⟩, "unexpected eof"⟩

/-- Move past the next token. -/
def skip (p : Parser) : Parser := { p with tokens := p.tokens.drop 1 }

/-- Return to the state on top of the stack. -/
def popState (p : Parser) : Parser :=
  match p.states with
  | s :: rest => { p with state := s, states := rest }
  | [] => p

/-- Remember `s` to return to. -/
def pushState (p : Parser) (s : ParseState) : Parser := { p with states := s :: p.states }

/-- Go to state `s`. -/
def goto (p : Parser) (s : ParseState) : Parser := { p with state := s }

/-- The empty scalar of a missing node. -/
def emptyScalar : Event := .scalar "~" .plain 0 none

/-- Give the next anchor number to `name`. -/
def register (p : Parser) (name : String) : Nat × Parser :=
  (p.nextAnchor, { p with anchors := (name, p.nextAnchor) :: p.anchors, nextAnchor := p.nextAnchor + 1 })

/-- Read a node's anchor and tag, in either order. -/
def properties (p : Parser) : Except ReadError (Nat × Option Tag × Parser) := do
  match (← p.peek).kind with
  | .anchor name =>
    let (id, p) := p.skip.register name
    match (← p.peek).kind with
    | .tag h s => return (id, some ⟨h, s⟩, p.skip)
    | _ => return (id, none, p)
  | .tag h s =>
    let p := p.skip
    match (← p.peek).kind with
    | .anchor name =>
      let (id, p) := p.register name
      return (id, some ⟨h, s⟩, p.skip)
    | _ => return (0, some ⟨h, s⟩, p)
  | _ => return (0, none, p)

/-- Read a node: an alias, or properties and content. Block collections are taken only when
`block`, and a sequence of `- ` entries without indentation only when `indentlessSequence`. -/
def parseNode (block indentlessSequence : Bool) (p : Parser) : Step := do
  let t ← p.peek
  match t.kind with
  | .aliasRef name =>
    match p.anchors.lookup name with
    | some id => return (.aliasOf id, p.popState.skip)
    | none => throw ⟨t.mark, "while parsing node, found unknown anchor"⟩
  | _ =>
    let (anchor, tag, p) ← properties p
    let t ← p.peek
    let nothing : Step :=
      if tag.isSome || 0 < anchor then .ok (.scalar "" .plain anchor tag, p.popState)
      else .error ⟨t.mark, "while parsing a node, did not find expected node content"⟩
    match t.kind with
    | .blockEntry =>
      if indentlessSequence then return (.sequenceStart anchor, p.goto .indentlessSequenceEntry)
      else nothing
    | .scalar style text => return (.scalar text style anchor tag, p.popState.skip)
    | .flowSequenceStart => return (.sequenceStart anchor, p.goto .flowSequenceFirstEntry)
    | .flowMappingStart => return (.mappingStart anchor, p.goto .flowMappingFirstKey)
    | .blockSequenceStart =>
      if block then return (.sequenceStart anchor, p.goto .blockSequenceFirstEntry) else nothing
    | .blockMappingStart =>
      if block then return (.mappingStart anchor, p.goto .blockMappingFirstKey) else nothing
    | _ => nothing

/-- The stream start. -/
def streamStart (p : Parser) : Step := do
  let t ← p.peek
  match t.kind with
  | .streamStart => return (.streamStart, (p.goto .implicitDocumentStart).skip)
  | _ => throw ⟨t.mark, "did not find expected <stream-start>"⟩

/-- Skip directives; they do not change how the document is read. -/
def skipDirectives (p : Parser) : Parser :=
  { p with tokens := p.tokens.dropWhile fun t =>
      match t.kind with
      | .versionDirective .. | .tagDirective .. => true
      | _ => false }

/-- The start of an explicit document: directives, then `---`. -/
def explicitDocumentStart (p : Parser) : Step := do
  let p := p.skipDirectives
  let t ← p.peek
  match t.kind with
  | .documentStart => return (.documentStart, ((p.pushState .documentEnd).goto .documentContent).skip)
  | _ => throw ⟨t.mark, "did not find expected <document start>"⟩

/-- The start of a document, or the end of the stream. Before an explicit document, `...`
markers are skipped. -/
def documentStart (implicit : Bool) (p : Parser) : Step := do
  let p := if implicit then p else { p with tokens := p.tokens.dropWhile (·.kind == .documentEnd) }
  let t ← p.peek
  match t.kind with
  | .streamEnd => return (.streamEnd, (p.goto .finished).skip)
  | .versionDirective .. | .tagDirective .. | .documentStart => explicitDocumentStart p
  | _ =>
    if implicit then return (.documentStart, (p.skipDirectives.pushState .documentEnd).goto .blockNode)
    else explicitDocumentStart p

/-- The content of an explicit document: a node, or an empty scalar when a marker follows. -/
def documentContent (p : Parser) : Step := do
  match (← p.peek).kind with
  | .versionDirective .. | .tagDirective .. | .documentStart | .documentEnd | .streamEnd =>
    return (emptyScalar, p.popState)
  | _ => parseNode true false p

/-- The end of a document, with or without `...`. -/
def documentEnd (p : Parser) : Step := do
  match (← p.peek).kind with
  | .documentEnd => return (.documentEnd, (p.goto .documentStart).skip)
  | _ => return (.documentEnd, p.goto .documentStart)

/-- Move past the start token of a collection when reading its first entry. -/
def skipFirst (first : Bool) (p : Parser) : Except ReadError Parser := do
  if first then
    let _ ← p.peek
    return p.skip
  else return p

/-- A key of a block mapping, or its end. -/
def blockMappingKey (first : Bool) (p : Parser) : Step := do
  let p ← skipFirst first p
  let t ← p.peek
  match t.kind with
  | .key =>
    let p := p.skip
    match (← p.peek).kind with
    | .key | .value | .blockEnd => return (emptyScalar, p.goto .blockMappingValue)
    | _ => parseNode true true (p.pushState .blockMappingValue)
  | .value => return (emptyScalar, p.goto .blockMappingValue)
  | .blockEnd => return (.mappingEnd, p.popState.skip)
  | _ => throw ⟨t.mark, "while parsing a block mapping, did not find expected key"⟩

/-- A value of a block mapping. -/
def blockMappingValue (p : Parser) : Step := do
  match (← p.peek).kind with
  | .value =>
    let p := p.skip
    match (← p.peek).kind with
    | .key | .value | .blockEnd => return (emptyScalar, p.goto .blockMappingKey)
    | _ => parseNode true true (p.pushState .blockMappingKey)
  | _ => return (emptyScalar, p.goto .blockMappingKey)

/-- An entry of a block sequence, or its end. -/
def blockSequenceEntry (first : Bool) (p : Parser) : Step := do
  let p ← skipFirst first p
  let t ← p.peek
  match t.kind with
  | .blockEnd => return (.sequenceEnd, p.popState.skip)
  | .blockEntry =>
    let p := p.skip
    match (← p.peek).kind with
    | .blockEntry | .blockEnd => return (emptyScalar, p.goto .blockSequenceEntry)
    | _ => parseNode true false (p.pushState .blockSequenceEntry)
  | _ => throw ⟨t.mark, "while parsing a block collection, did not find expected '-' indicator"⟩

/-- An entry of a sequence without indentation, which ends at any other token. -/
def indentlessSequenceEntry (p : Parser) : Step := do
  match (← p.peek).kind with
  | .blockEntry =>
    let p := p.skip
    match (← p.peek).kind with
    | .blockEntry | .key | .value | .blockEnd => return (emptyScalar, p.goto .indentlessSequenceEntry)
    | _ => parseNode true false (p.pushState .indentlessSequenceEntry)
  | _ => return (.sequenceEnd, p.popState)

/-- An entry of a flow sequence, or its end. -/
def flowSequenceEntry (first : Bool) (p : Parser) : Step := do
  let p ← skipFirst first p
  let t ← p.peek
  match t.kind with
  | .flowSequenceEnd => return (.sequenceEnd, p.popState.skip)
  | _ =>
    let p ← if first then pure p
      else match t.kind with
        | .flowEntry => pure p.skip
        | _ => throw (⟨t.mark, "while parsing a flow sequence, expected ',' or ']'"⟩ : ReadError)
    match (← p.peek).kind with
    | .flowSequenceEnd => return (.sequenceEnd, p.popState.skip)
    | .key => return (.mappingStart 0, (p.goto .flowSequenceEntryMappingKey).skip)
    | _ => parseNode false false (p.pushState .flowSequenceEntry)

/-- The key of a one-entry mapping in a flow sequence. -/
def flowSequenceEntryMappingKey (p : Parser) : Step := do
  match (← p.peek).kind with
  | .value | .flowEntry | .flowSequenceEnd =>
    return (emptyScalar, (p.goto .flowSequenceEntryMappingValue).skip)
  | _ => parseNode false false (p.pushState .flowSequenceEntryMappingValue)

/-- The value of a one-entry mapping in a flow sequence. -/
def flowSequenceEntryMappingValue (p : Parser) : Step := do
  match (← p.peek).kind with
  | .value =>
    let p := p.skip
    match (← p.peek).kind with
    | .flowEntry | .flowSequenceEnd => return (emptyScalar, p.goto .flowSequenceEntryMappingEnd)
    | _ => parseNode false false (p.pushState .flowSequenceEntryMappingEnd)
  | _ => return (emptyScalar, p.goto .flowSequenceEntryMappingEnd)

/-- A key of a flow mapping, or its end. -/
def flowMappingKey (first : Bool) (p : Parser) : Step := do
  let p ← skipFirst first p
  let t ← p.peek
  match t.kind with
  | .flowMappingEnd => return (.mappingEnd, p.popState.skip)
  | _ =>
    let p ← if first then pure p
      else match t.kind with
        | .flowEntry => pure p.skip
        | _ => throw (⟨t.mark, "while parsing a flow mapping, did not find expected ',' or '\x7d'"⟩ : ReadError)
    match (← p.peek).kind with
    | .key =>
      let p := p.skip
      match (← p.peek).kind with
      | .value | .flowEntry | .flowMappingEnd => return (emptyScalar, p.goto .flowMappingValue)
      | _ => parseNode false false (p.pushState .flowMappingValue)
    | .value => return (emptyScalar, p.goto .flowMappingValue)
    | .flowMappingEnd => return (.mappingEnd, p.popState.skip)
    | _ => parseNode false false (p.pushState .flowMappingEmptyValue)

/-- A value of a flow mapping; `empty` after a key written without `:`. -/
def flowMappingValue (empty : Bool) (p : Parser) : Step := do
  let _ ← p.peek
  if empty then return (emptyScalar, p.goto .flowMappingKey)
  else
    match (← p.peek).kind with
    | .value =>
      let p := p.skip
      match (← p.peek).kind with
      | .flowEntry | .flowMappingEnd => return (emptyScalar, p.goto .flowMappingKey)
      | _ => parseNode false false (p.pushState .flowMappingKey)
    | _ => return (emptyScalar, p.goto .flowMappingKey)

/-- One step of the state machine. -/
def step (p : Parser) : Step :=
  match p.state with
  | .streamStart => streamStart p
  | .implicitDocumentStart => documentStart true p
  | .documentStart => documentStart false p
  | .documentContent => documentContent p
  | .documentEnd => documentEnd p
  | .blockNode => parseNode true false p
  | .blockMappingFirstKey => blockMappingKey true p
  | .blockMappingKey => blockMappingKey false p
  | .blockMappingValue => blockMappingValue p
  | .blockSequenceFirstEntry => blockSequenceEntry true p
  | .blockSequenceEntry => blockSequenceEntry false p
  | .flowSequenceFirstEntry => flowSequenceEntry true p
  | .flowSequenceEntry => flowSequenceEntry false p
  | .flowMappingFirstKey => flowMappingKey true p
  | .flowMappingKey => flowMappingKey false p
  | .flowMappingValue => flowMappingValue false p
  | .indentlessSequenceEntry => indentlessSequenceEntry p
  | .flowSequenceEntryMappingKey => flowSequenceEntryMappingKey p
  | .flowSequenceEntryMappingValue => flowSequenceEntryMappingValue p
  | .flowSequenceEntryMappingEnd => .ok (.mappingEnd, p.goto .flowSequenceEntry)
  | .flowMappingEmptyValue => flowMappingValue true p
  | .finished => .ok (.streamEnd, p)

/-- Run the state machine to the end of the stream, collecting events in reverse. Each
document starts with no anchors. -/
def run : Nat → Parser → List Event → Except ReadError (List Event)
  | 0, _, _ => .error ⟨⟨0, 0, 0⟩, "the event stream did not end"⟩
  | fuel + 1, p, acc =>
    if p.state = .finished then .ok acc
    else match p.step with
      | .error e => .error e
      | .ok (ev, p) =>
        let p := match ev with
          | .documentStart => { p with anchors := [] }
          | _ => p
        run fuel p (ev :: acc)

end Parser

/-- The events of a token stream. -/
def parseTokens (tokens : List Token) : Except ReadError (List Event) :=
  (Parser.run (8 * tokens.length + 16) ⟨tokens, .streamStart, [], [], 1⟩ []).map List.reverse

end OlmProvision.Yaml
