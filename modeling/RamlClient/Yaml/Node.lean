import RamlClient.Yaml.Tag
import RamlClient.Yaml.Token
/-!
# Nodes

A YAML text holds one document at most, and a document is a graph of nodes: scalars, sequences and
mappings, each with its tag. A node that refers to an anchor is the anchored node itself, so a node
may be reached on several ways and may stand inside of itself.
-/

namespace RamlClient.Yaml

/-- The number of a node: nodes are counted in the order in which they begin. -/
abbrev NodeId := Nat

/-- The nodes of a document. -/
inductive Node where
  /-- A text. -/
  | scalar (tag : Tag) (text : List Char)
  /-- Nodes one after another. -/
  | sequence (tag : Tag) (items : List NodeId)
  /-- Pairs of nodes. -/
  | mapping (tag : Tag) (entries : List (NodeId × NodeId))
deriving DecidableEq, Repr

namespace Node

/-- The tag of a node. -/
def tag : Node → Tag
  | scalar t _ => t
  | sequence t _ => t
  | mapping t _ => t

/-- The node with another tag. -/
def withTag (t : Tag) : Node → Node
  | scalar _ cs => scalar t cs
  | sequence _ items => sequence t items
  | mapping _ entries => mapping t entries

/-- The scalar that stands where nothing is written. -/
def absent : Node := scalar .null []

end Node

/-- A graph of nodes. -/
abbrev Graph := Array Node

namespace Graph

/-- The node of a number. -/
def node (g : Graph) (n : NodeId) : Node := (g[n]?).getD .absent

/-- The graph with another node of a number. -/
def put (g : Graph) (n : NodeId) (node : Node) : Graph := g.setIfInBounds n node

/-- The entries of a mapping. -/
def entries (g : Graph) (n : NodeId) : List (NodeId × NodeId) :=
  match g.node n with
  | .mapping _ es => es
  | _ => []

/-- The graph with other entries of a mapping. -/
def putEntries (g : Graph) (n : NodeId) (es : List (NodeId × NodeId)) : Graph :=
  g.put n (.mapping (g.node n).tag es)

end Graph

/-- What is known while nodes are read. -/
structure NodeState where
  /-- The tokens that are left. -/
  rest : List Token
  /-- The nodes that have begun; a collection that is not complete yet is empty. -/
  graph : Graph
  /-- The anchored nodes. -/
  anchors : List (List Char × NodeId)
  /-- What the tag handles stand for. -/
  handles : List (List Char × List Char)

/-- Steps that read nodes. What reads next to the last token may be an error. -/
abbrev NodeReader := ReaderT (Option YamlError) (EStateM YamlError NodeState)

namespace NodeReader

/-- The text is not well formed. -/
def malformed {α : Type} : NodeReader α := throw .malformed

/-- The next token, if there is one. -/
def peek : NodeReader (Option Token) := do
  match (← get).rest.head?, ← read with
  | some t, _ => pure (some t)
  | none, none => pure none
  | none, some e => throw e

/-- Goes over a token. -/
def advance : NodeReader Unit := modify fun s => { s with rest := s.rest.tail }

/-- Goes over a token if it comes next, and tells whether it does. -/
def accept (t : Token) : NodeReader Bool := do
  if (← peek) == some t then
    advance
    pure true
  else pure false

/-- Goes over a token that has to come next. -/
def expect (t : Token) : NodeReader Unit := do
  if !(← accept t) then malformed

/-- Whether one of some tokens comes next. -/
def isAt (ts : List Token) : NodeReader Bool := do
  match ← peek with
  | some t => pure (ts.contains t)
  | none => pure false

/-! ### Anchors and tags -/

/-- The anchor that comes next, if there is one. -/
def readAnchor : NodeReader (Option (List Char)) := do
  match ← peek with
  | some (.anchor name) =>
    advance
    pure (some name)
  | _ => pure none

/-- The tag that comes next, if there is one: its handle, if it has one, and the rest. -/
def readTag : NodeReader (Option (Option (List Char) × List Char)) := do
  match ← peek with
  | some (.tag handle rest) =>
    advance
    pure (some (handle, rest))
  | _ => pure none

/-- The name of a tag. Its handle has to stand for something. -/
def tagName : Option (Option (List Char) × List Char) → NodeReader (Option (List Char))
  | none => pure none
  | some (none, rest) => pure (some rest)
  | some (some handle, rest) => do
    match (← get).handles.find? (·.1 == handle) with
    | some known => pure (some (known.2 ++ rest))
    | none => malformed

/-- An anchor and the name of a tag in any order. -/
def readProperties : NodeReader (Option (List Char) × Option (List Char)) := do
  match ← readAnchor with
  | some anchor =>
    let tag ← readTag
    pure (some anchor, ← tagName tag)
  | none =>
    let tag ← readTag
    let anchor ← readAnchor
    pure (anchor, ← tagName tag)

/-- Begins a node with an anchor; no two nodes have the same anchor. -/
def begin (anchor : Option (List Char)) (node : Node) : NodeReader NodeId := do
  let n := (← get).graph.size
  if let some name := anchor then
    if (← get).anchors.any (·.1 == name) then malformed
    modify fun s => { s with anchors := (name, n) :: s.anchors }
  modify fun s => { s with graph := s.graph.push node }
  pure n

/-- Completes a node. -/
def complete (n : NodeId) (node : Node) : NodeReader NodeId := do
  modify fun s => { s with graph := s.graph.put n node }
  pure n

/-- The node where nothing is written. -/
def absent : NodeReader NodeId := begin none .absent

/-- The node that an anchor stands for. -/
def anchored (name : List Char) : NodeReader NodeId := do
  match (← get).anchors.find? (·.1 == name) with
  | none => malformed
  | some (_, n) => pure n

/-- The tag of a scalar. The name `!` asks for the tag that a plain scalar gets by its text. -/
def scalarTag (name : Option (List Char)) (text : List Char) (plain : Bool) : Tag :=
  match name with
  | none => if plain then Tag.ofPlain text else .text
  | some name => if name = ['!'] then Tag.ofPlain text else Tag.ofName name

/-- The tag of a collection. -/
def collectionTag (name : Option (List Char)) (usual : Tag) : Tag :=
  match name with
  | none => usual
  | some name => if name = ['!'] then usual else Tag.ofName name

/-! ### Nodes -/

/-- Where a node stands. -/
inductive Position where
  /-- In flow style. -/
  | flow
  /-- In block style. -/
  | block
  /-- In block style where a sequence needs no indentation of its own. -/
  | indentless
deriving DecidableEq, Repr

/-- A node of which only an anchor or a tag is written. -/
def readEmpty (anchor tag : Option (List Char)) : NodeReader NodeId := do
  if anchor.isNone && tag.isNone then malformed
  begin anchor (.scalar (scalarTag tag [] true) [])

mutual
/-- A node at a position. In every reader of nodes a number bounds the depth of its steps. -/
def readNode (position : Position) : Nat → NodeReader NodeId
  | 0 => malformed
  | fuel + 1 => do
    if let some (.alias name) ← peek then
      advance
      return ← anchored name
    let (anchor, tag) ← readProperties
    let inBlock := position != .flow
    let sequenceOf (items : NodeReader (List NodeId)) : NodeReader NodeId := do
      let t := collectionTag tag .sequence
      let n ← begin anchor (.sequence t [])
      complete n (.sequence t (← items))
    let mappingOf (entries : NodeReader (List (NodeId × NodeId))) : NodeReader NodeId := do
      let t := collectionTag tag .mapping
      let n ← begin anchor (.mapping t [])
      complete n (.mapping t (← entries))
    if let some (.scalar text plain) ← peek then
      advance
      begin anchor (.scalar (scalarTag tag text plain) text)
    else if position == .indentless && (← isAt [.blockEntry]) then
      sequenceOf (readIndentless fuel)
    else if ← accept .flowSequenceStart then sequenceOf (readFlowSequence true fuel)
    else if ← accept .flowMappingStart then mappingOf (readFlowMapping true fuel)
    else if inBlock && (← isAt [.blockSequenceStart]) then
      advance
      sequenceOf (readBlockSequence fuel)
    else if inBlock && (← isAt [.blockMappingStart]) then
      advance
      mappingOf (readBlockMapping fuel)
    else readEmpty anchor tag
termination_by structural fuel => fuel

/-- A node, or nothing before one of some tokens. -/
def readNodeUnless (ends : List Token) (position : Position) : Nat → NodeReader NodeId
  | 0 => malformed
  | fuel + 1 => do
    if ← isAt ends then absent else readNode position fuel
termination_by structural fuel => fuel

/-- A value after its mark, or nothing if the mark is missing. -/
def readValueUnless (ends : List Token) (position : Position) : Nat → NodeReader NodeId
  | 0 => malformed
  | fuel + 1 => do
    if ← accept .value then readNodeUnless ends position fuel else absent
termination_by structural fuel => fuel

/-- The items of an indented sequence in block style. -/
def readBlockSequence : Nat → NodeReader (List NodeId)
  | 0 => malformed
  | fuel + 1 => do
    if ← accept .blockEntry then
      let item ← readNodeUnless [.blockEntry, .blockEnd] .block fuel
      pure (item :: (← readBlockSequence fuel))
    else
      expect .blockEnd
      pure []
termination_by structural fuel => fuel

/-- The items of a sequence in block style without an indentation of its own. -/
def readIndentless : Nat → NodeReader (List NodeId)
  | 0 => malformed
  | fuel + 1 => do
    if ← accept .blockEntry then
      let item ← readNodeUnless [.blockEntry, .key, .value, .blockEnd] .block fuel
      pure (item :: (← readIndentless fuel))
    else pure []
termination_by structural fuel => fuel

/-- The entries of a mapping in block style. -/
def readBlockMapping : Nat → NodeReader (List (NodeId × NodeId))
  | 0 => malformed
  | fuel + 1 => do
    if ← accept .key then
      let ends := [.key, .value, .blockEnd]
      let key ← readNodeUnless ends .indentless fuel
      let value ← readValueUnless ends .indentless fuel
      pure ((key, value) :: (← readBlockMapping fuel))
    else
      expect .blockEnd
      pure []
termination_by structural fuel => fuel

/-- The items of a sequence in flow style; a pair is a mapping of one entry. -/
def readFlowSequence (first : Bool) : Nat → NodeReader (List NodeId)
  | 0 => malformed
  | fuel + 1 => do
    if ← accept .flowSequenceEnd then return []
    if !first then expect .flowEntry
    if ← accept .key then
      let key ← readNodeUnless [.value, .flowEntry, .flowSequenceEnd] .flow fuel
      let value ← readValueUnless [.flowEntry, .flowSequenceEnd] .flow fuel
      let pair ← begin none (.mapping .mapping [(key, value)])
      pure (pair :: (← readFlowSequence false fuel))
    else if ← accept .flowSequenceEnd then pure []
    else
      let item ← readNode .flow fuel
      pure (item :: (← readFlowSequence false fuel))
termination_by structural fuel => fuel

/-- The entries of a mapping in flow style; a node without a mark is a key without a value. -/
def readFlowMapping (first : Bool) : Nat → NodeReader (List (NodeId × NodeId))
  | 0 => malformed
  | fuel + 1 => do
    if ← accept .flowMappingEnd then return []
    if !first then expect .flowEntry
    if ← accept .key then
      let key ← readNodeUnless [.value, .flowEntry, .flowMappingEnd] .flow fuel
      let value ← readValueUnless [.flowEntry, .flowMappingEnd] .flow fuel
      pure ((key, value) :: (← readFlowMapping false fuel))
    else if ← accept .flowMappingEnd then pure []
    else
      let key ← readNode .flow fuel
      let value ← absent
      pure ((key, value) :: (← readFlowMapping false fuel))
termination_by structural fuel => fuel
end

/-! ### Documents -/

/-- The tag handles that need no directive. -/
def usualHandles : List (List Char × List Char) := [(['!'], ['!']), (['!', '!'], Tag.commonStart)]

/-- The directives that come next. The version is given once at most and has to be 1; no two
directives are about the same handle. -/
def readDirectives (versionGiven : Bool) (handles : List (List Char × List Char)) :
    Nat → NodeReader (List (List Char × List Char))
  | 0 => malformed
  | fuel + 1 => do
    match ← peek with
    | some (.version major) =>
      if versionGiven || major != 1 then malformed
      advance
      readDirectives true handles fuel
    | some (.tagHandle handle start) =>
      if handles.any (·.1 == handle) then malformed
      advance
      readDirectives versionGiven ((handle, start) :: handles) fuel
    | some .directive =>
      advance
      readDirectives versionGiven handles fuel
    | _ => pure handles

/-- Whether a token is a directive. -/
def isDirective : Token → Bool
  | .version _ => true
  | .tagHandle _ _ => true
  | .directive => true
  | _ => false

/-- The node of a document after the marker. -/
def readContent (fuel : Nat) : NodeReader NodeId := do
  match ← peek with
  | none => absent
  | some t =>
    if isDirective t || t = .documentStart || t = .documentEnd then absent
    else readNode .block fuel

/-- Markers after a document. -/
def skipEnds : Nat → NodeReader Unit
  | 0 => pure ()
  | fuel + 1 => do if ← accept .documentEnd then skipEnds fuel

/-- The only document of a text; nothing written is a document too. -/
def readDocument (fuel : Nat) : NodeReader NodeId := do
  match ← peek with
  | none => absent
  | some t =>
    let node ←
      if isDirective t || t = .documentStart then
        let handles ← readDirectives false [] fuel
        modify fun s => { s with handles := handles ++ usualHandles }
        expect .documentStart
        readContent fuel
      else readNode .block fuel
    skipEnds fuel
    if (← peek).isSome then
      discard (readDirectives false [] fuel)
      malformed
    pure node

end NodeReader

/-- The graph of the only document of a text, and its first node. -/
def document (text : String) : Except YamlError (Graph × NodeId) :=
  let (ts, failure) := tokens text
  let start : NodeState := ⟨ts, #[], [], NodeReader.usualHandles⟩
  match NodeReader.readDocument (4 * ts.length + 4) failure start with
  | .ok n s => .ok (s.graph, n)
  | .error e _ => .error e

end RamlClient.Yaml
