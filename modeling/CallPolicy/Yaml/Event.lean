import CallPolicy.Yaml.Token

/-!
Contract: the structure of YAML documents as a list of events.

Owns:
- events, with the tags of nodes in full;
- the grammar of token lists, as a machine that gives one event at a time;
- the events of a whole text.

Does not own: trees of nodes and the meaning of aliases.
-/

namespace CallPolicy.Yaml

/-- What may stand before the content of a node: the name under which it can be
repeated, and the bytes of its tag. -/
structure Properties where
  anchor : Option String
  tag : Option (List UInt8)
deriving DecidableEq, Repr

/-- One step through the nodes of a document. -/
inductive Event where
  | documentStart
  | documentEnd
  | alias (name : String)
  | scalar (properties : Properties) (plain : Bool) (text : String)
  | sequenceStart (properties : Properties)
  | sequenceEnd
  | mappingStart (properties : Properties)
  | mappingEnd
deriving DecidableEq, Repr

namespace Event

/-- The node that is written as nothing at all. -/
def emptyScalar : Event := .scalar ⟨none, none⟩ true ""

/-- Where in the grammar the tokens are. -/
inductive Place where
  | firstDocument
  | laterDocument
  | documentContent
  | documentClose
  | blockNode
  | sequenceFirst
  | sequenceNext
  | inlineSequence
  | mappingFirst
  | mappingKey
  | mappingValue
  | flowSequenceFirst
  | flowSequenceNext
  | pairKey
  | pairValue
  | pairEnd
  | flowMappingFirst
  | flowMappingNext
  | flowMappingValue
  | flowMappingNoValue
deriving DecidableEq, Repr

/-- The state of the grammar: the place, the places to come back to, the tag
handles that are known, and the tokens that are left. -/
structure State where
  place : Place
  back : List Place
  handles : List (String × List UInt8)
  tokens : List Token

/-- The handles that every document knows. -/
def knownHandles : List (String × List UInt8) :=
  [("!", Token.asciiBytes ['!']),
    ("!!", Token.asciiBytes "tag:yaml.org,2002:".toList)]

/-- An event, and the place for the tokens after it. -/
def give (state : State) (event : Event) (place : Place) (tokens : List Token) :
    Option (Event × State) :=
  some (event, { state with place, tokens })

/-- An event after which the grammar comes back to where it was. -/
def giveLast (state : State) (event : Event) (tokens : List Token) :
    Option (Event × State) :=
  match state.back with
  | [] => none
  | place :: back => some (event, { state with place, back, tokens })

/-- The bytes of a tag in full, if its handle is known. -/
def fullTag? (handles : List (String × List UInt8)) (text : TagText) : Option (List UInt8) :=
  if text.handle.isEmpty then some text.suffix
  else
    (handles.find? fun entry => entry.1 == text.handle).map fun entry =>
      entry.2 ++ text.suffix

/-- Reads anchor and tag, in any order, each at most once. -/
def readProperties : List Token → (Option String × Option TagText) × List Token
  | .anchor name :: .tag text :: rest => ((some name, some text), rest)
  | .anchor name :: rest => ((some name, none), rest)
  | .tag text :: .anchor name :: rest => ((some name, some text), rest)
  | .tag text :: rest => ((none, some text), rest)
  | tokens => ((none, none), tokens)

/-- The content of a node. Blocks may not begin inside of flow collections, and an
inline sequence only where the value or the key of a block mapping stands. A node
with anchor or tag may have no content. -/
def content (state : State) (inBlock inMapping : Bool) (properties : Properties)
    (tokens : List Token) : Option (Event × State) :=
  match tokens with
  | .scalar plain text :: rest => giveLast state (.scalar properties plain text) rest
  | .flowSequenceStart :: _ => give state (.sequenceStart properties) .flowSequenceFirst tokens
  | .flowMappingStart :: _ => give state (.mappingStart properties) .flowMappingFirst tokens
  | token :: _ =>
      if inMapping && token = .blockEntry then
        give state (.sequenceStart properties) .inlineSequence tokens
      else if inBlock && token = .blockSequenceStart then
        give state (.sequenceStart properties) .sequenceFirst tokens
      else if inBlock && token = .blockMappingStart then
        give state (.mappingStart properties) .mappingFirst tokens
      else if properties ≠ ⟨none, none⟩ then
        giveLast state (.scalar properties true "") tokens
      else none
  | [] =>
      if properties ≠ ⟨none, none⟩ then giveLast state (.scalar properties true "") tokens
      else none

/-- A node: an alias, or properties and content. -/
def node (state : State) (inBlock inMapping : Bool) (tokens : List Token) :
    Option (Event × State) :=
  match tokens with
  | .alias name :: rest => giveLast state (.alias name) rest
  | _ =>
      let ((anchor, written), rest) := readProperties tokens
      match written with
      | none => content state inBlock inMapping ⟨anchor, none⟩ rest
      | some text =>
          match fullTag? state.handles text with
          | some tag => content state inBlock inMapping ⟨anchor, some tag⟩ rest
          | none => none

/-- A node after which the grammar goes on at a given place. -/
def nodeThen (state : State) (next : Place) (inBlock inMapping : Bool)
    (tokens : List Token) : Option (Event × State) :=
  node { state with back := next :: state.back } inBlock inMapping tokens

/-- A node, or an empty one if none of its tokens stands here. -/
def nodeUnless (absent : Token → Bool) (state : State) (next : Place)
    (inBlock inMapping : Bool) (tokens : List Token) : Option (Event × State) :=
  if tokens.head?.any absent then give state emptyScalar next tokens
  else nodeThen state next inBlock inMapping tokens

/-- Reads directives: at most one version, which has to be known, and no handle
twice. -/
def directives (versionSeen : Bool) (handles : List (String × List UInt8)) :
    List Token → Option (List (String × List UInt8) × List Token)
  | .version major minor :: rest =>
      if versionSeen || major ≠ 1 || (minor ≠ 1 && minor ≠ 2) then none
      else directives true handles rest
  | .tagPrefix handle expansion :: rest =>
      if handles.any fun entry => entry.1 == handle then none
      else directives versionSeen ((handle, expansion) :: handles) rest
  | tokens => some (handles ++ knownHandles, tokens)

/-- A document that is announced by a mark, after its directives. -/
def markedDocument (state : State) (tokens : List Token) : Option (Event × State) := do
  let (handles, rest) ← directives false [] tokens
  match rest with
  | .documentStart :: after =>
      some (.documentStart,
        { place := .documentContent, back := .documentClose :: state.back, handles,
          tokens := after })
  | _ => none

/-- Whether a token begins a directive or marks the start of a document. -/
def announces : Token → Bool
  | .version _ _ | .tagPrefix _ _ | .documentStart => true
  | _ => false

/-- Whether a token ends the part of a block mapping. -/
def endsMappingPart : Token → Bool
  | .key | .value | .blockEnd => true
  | _ => false

/-- Whether a token ends an entry of a block sequence. -/
def endsEntry : Token → Bool
  | .blockEntry | .blockEnd => true
  | _ => false

/-- Whether a token ends an entry of an inline sequence. -/
def endsInlineEntry : Token → Bool
  | .blockEntry | .key | .value | .blockEnd => true
  | _ => false

/-- Whether a token ends the value of a pair in a flow sequence. -/
def endsPairValue : Token → Bool
  | .flowEntry | .flowSequenceEnd => true
  | _ => false

/-- Whether a token ends the value of a flow mapping. -/
def endsFlowValue : Token → Bool
  | .flowEntry | .flowMappingEnd => true
  | _ => false

/-- An entry of a flow sequence, or its end. -/
def flowSequenceEntry (state : State) (tokens : List Token) : Option (Event × State) :=
  match tokens with
  | .flowSequenceEnd :: rest => giveLast state .sequenceEnd rest
  | .key :: rest => give state (.mappingStart ⟨none, none⟩) .pairKey rest
  | _ => nodeThen state .flowSequenceNext false false tokens

/-- A member of a flow mapping, or its end. -/
def flowMember (state : State) (tokens : List Token) : Option (Event × State) :=
  match tokens with
  | .flowMappingEnd :: rest => giveLast state .mappingEnd rest
  | .key :: rest =>
      nodeUnless (fun token => token = .value || endsFlowValue token) state
        .flowMappingValue false false rest
  | _ => nodeThen state .flowMappingNoValue false false tokens

/-- The next event. -/
def next? (state : State) : Option (Event × State) :=
  match state.place, state.tokens with
  | .firstDocument, tokens =>
      if tokens.head?.any announces then markedDocument state tokens
      else
        some (.documentStart,
          { place := .blockNode, back := .documentClose :: state.back,
            handles := knownHandles, tokens })
  | .laterDocument, tokens => markedDocument state tokens
  | .documentContent, tokens =>
      if tokens.isEmpty || tokens.head?.any (fun token => announces token || token = .documentEnd)
      then giveLast state emptyScalar tokens
      else node state true false tokens
  | .documentClose, .documentEnd :: rest => give state .documentEnd .laterDocument rest
  | .documentClose, tokens => give state .documentEnd .laterDocument tokens
  | .blockNode, tokens => node state true false tokens
  | .sequenceFirst, .blockSequenceStart :: .blockEntry :: rest
  | .sequenceNext, .blockEntry :: rest =>
      nodeUnless endsEntry state .sequenceNext true false rest
  | .sequenceFirst, .blockSequenceStart :: .blockEnd :: rest
  | .sequenceNext, .blockEnd :: rest => giveLast state .sequenceEnd rest
  | .sequenceFirst, _ | .sequenceNext, _ => none
  | .inlineSequence, .blockEntry :: rest =>
      nodeUnless endsInlineEntry state .inlineSequence true false rest
  | .inlineSequence, tokens => giveLast state .sequenceEnd tokens
  | .mappingFirst, .blockMappingStart :: .key :: rest
  | .mappingKey, .key :: rest =>
      nodeUnless endsMappingPart state .mappingValue true true rest
  | .mappingFirst, .blockMappingStart :: .blockEnd :: rest
  | .mappingKey, .blockEnd :: rest => giveLast state .mappingEnd rest
  | .mappingFirst, _ | .mappingKey, _ => none
  | .mappingValue, .value :: rest =>
      nodeUnless endsMappingPart state .mappingKey true true rest
  | .mappingValue, tokens => give state emptyScalar .mappingKey tokens
  | .flowSequenceFirst, tokens => flowSequenceEntry state (tokens.drop 1)
  | .flowSequenceNext, .flowEntry :: rest => flowSequenceEntry state rest
  | .flowSequenceNext, .flowSequenceEnd :: rest => giveLast state .sequenceEnd rest
  | .flowSequenceNext, _ => none
  | .pairKey, tokens =>
      -- What stands in place of the key is passed over with it.
      if tokens.head?.any (fun token => token = .value || endsPairValue token) then
        give state emptyScalar .pairValue (tokens.drop 1)
      else nodeThen state .pairValue false false tokens
  | .pairValue, .value :: rest => nodeUnless endsPairValue state .pairEnd false false rest
  | .pairValue, tokens => give state emptyScalar .pairEnd tokens
  | .pairEnd, tokens => give state .mappingEnd .flowSequenceNext tokens
  | .flowMappingFirst, tokens => flowMember state (tokens.drop 1)
  | .flowMappingNext, .flowEntry :: rest => flowMember state rest
  | .flowMappingNext, .flowMappingEnd :: rest => giveLast state .mappingEnd rest
  | .flowMappingNext, _ => none
  | .flowMappingValue, .value :: rest =>
      nodeUnless endsFlowValue state .flowMappingNext false false rest
  | .flowMappingValue, tokens => give state emptyScalar .flowMappingNext tokens
  | .flowMappingNoValue, tokens => give state emptyScalar .flowMappingNext tokens

/-- Drops marks of a document end that follow another one. -/
def dropEnds : List Token → List Token
  | .documentEnd :: rest => dropEnds rest
  | tokens => tokens

/-- The state without the document ends that are passed over before a later
document. -/
def atNext (state : State) : State :=
  match state.place with
  | .laterDocument => { state with tokens := dropEnds state.tokens }
  | _ => state

/-- Whether the tokens are used up between two documents. -/
def isDone (state : State) : Bool :=
  state.tokens.isEmpty && (state.place == .firstDocument || state.place == .laterDocument)

/-- All events, put after those that were given, newest first. -/
def run? : Nat → State → List Event → Option (List Event)
  | 0, _, _ => none
  | steps + 1, state, given =>
      let state := atNext state
      if isDone state then some given.reverse
      else
        match next? state with
        | some (event, following) => run? steps following (event :: given)
        | none => none

/-- A number of steps that is enough: each token takes part in a few events. -/
def stepLimit (tokens : List Token) : Nat :=
  8 * tokens.length + 16

/-- The events that tokens spell. -/
def ofTokens? (tokens : List Token) : Option (List Event) :=
  run? (stepLimit tokens) ⟨.firstDocument, [], knownHandles, tokens⟩ []

end Event

end CallPolicy.Yaml
