import RamlClient.Yaml.Node
import RamlClient.Yaml.ScalarValue
/-!
# Outlines

An outline is what a YAML text says before the files it includes are read: the collections of the
text, by the numbers of their nodes, and what stands in them. Nodes are made into parts one after
another: a collection gets its content only after all collections that have begun before it. So what
lies deeper in a text is looked at later, and of several faults the one that counts is the first one
in this order. The files that are included before that fault are noted, too.
-/

namespace RamlClient.Yaml

/-- What stands in a collection or is the whole text. -/
inductive Part where
  /-- A value. -/
  | value (v : Value)
  /-- The content of an included file; inclusions are counted in the order in which they are met. -/
  | inclusion (n : Nat)
  /-- The collection of a node. -/
  | collection (n : NodeId)

/-- A collection and its content. -/
inductive Collection where
  /-- A list. -/
  | list (items : List Part)
  /-- A list of pairs. -/
  | pairs (pairs : List (Part × Part))
  /-- A mapping; a later entry of a key replaces the value of an earlier one. -/
  | mapping (entries : List (Part × Part))
  /-- A set, by the entries of which it has the keys. -/
  | set (entries : List (Part × Part))

/-- What has to be done outside of a text to read it. -/
inductive Step where
  /-- To read the file at a path. -/
  | inclusion (path : String)
  /-- To check that the content of an included file can be a key. -/
  | key (n : Nat)

/-- What a text says before the files it includes are read. -/
structure Outline where
  /-- What has to be done outside, in order. -/
  steps : List Step
  /-- The fault that ends the reading after these steps, or else the whole text. -/
  root : Except YamlError Part
  /-- The collections by the numbers of their nodes. -/
  collections : Array (Option Collection)

/-- The state of an outline that is being made. -/
structure OutlineState where
  /-- The nodes. -/
  graph : Graph
  /-- The parts that nodes have become. -/
  parts : Array (Option Part)
  /-- The nodes of the collections that have begun, in order. -/
  begun : Array NodeId
  /-- The contents of collections. -/
  collections : Array (Option Collection)
  /-- The number of inclusions. -/
  inclusions : Nat
  /-- What has to be done outside. -/
  steps : Array Step

/-- Steps that make an outline. -/
abbrev Outlining := EStateM YamlError OutlineState

namespace Outlining

/-- The text is not well formed. -/
def malformed {α : Type} : Outlining α := throw .malformed

/-- The node of a number. -/
def node (n : NodeId) : Outlining Node := do pure ((← get).graph.node n)

/-! ### Scalars -/

/-- The text of a node where a scalar is needed: a mapping stands for the value of its value key.
`depth` bounds the number of mappings on the way. -/
def scalarText (g : Graph) : Nat → NodeId → Except YamlError (List Char)
  | 0, _ => .error (.defect .endlessValue)
  | depth + 1, n =>
    match g.node n with
    | .scalar _ cs => .ok cs
    | .sequence _ _ => .error .malformed
    | .mapping _ entries =>
      match entries.find? fun e => (g.node e.1).tag == .valueKey with
      | some e => scalarText g depth e.2
      | none => .error .malformed

/-- Whether a node is a scalar. -/
def isScalar : Node → Bool
  | .scalar _ _ => true
  | _ => false

/-- The part that a node with a tag for scalars becomes. -/
def scalarPart (n : NodeId) : Outlining Part := do
  let g := (← get).graph
  let tag := (g.node n).tag
  let cs ← MonadExcept.ofExcept (scalarText g (g.size + 1) n)
  if tag == .inclusion then
    let s ← getModify fun s => { s with
      inclusions := s.inclusions + 1
      steps := s.steps.push (.inclusion (String.ofList cs)) }
    pure (.inclusion s.inclusions)
  else if tag == .timestamp && !isScalar (g.node n) then throw (.defect .dateNotText)
  else do pure (.value (← MonadExcept.ofExcept (scalarValue tag cs)))

/-- Whether a tag is one of a collection. -/
def isCollectionTag (t : Tag) : Bool := [.sequence, .mapping, .set, .pairs].contains t

/-- Whether a tag has no values. -/
def isIdleTag (t : Tag) : Bool := [.mergeKey, .valueKey, .unknown].contains t

/-- The part that a node becomes; it becomes the same one each time. -/
def partOf (n : NodeId) : Outlining Part := do
  match ((← get).parts[n]?).join with
  | some p => pure p
  | none =>
    let tag := (← node n).tag
    let p ←
      if isIdleTag tag then malformed
      else if isCollectionTag tag then do
        modify fun s => { s with begun := s.begun.push n }
        pure (.collection n)
      else scalarPart n
    modify fun s => { s with parts := s.parts.setIfInBounds n (some p) }
    pure p

/-! ### Merging -/

/-- The first entry with a merge key: its index and its value. -/
def mergeEntry? (g : Graph) (n : NodeId) : Option (Nat × NodeId) :=
  let entries := g.entries n
  let index := entries.findIdx fun e => (g.node e.1).tag == .mergeKey
  (entries[index]?).map fun e => (index, e.2)

/-- The graph in which the value keys of a mapping are texts. -/
def plainKeys (g : Graph) (n : NodeId) : Graph :=
  (g.entries n).foldl
    (fun g e =>
      let key := g.node e.1
      if key.tag == .valueKey then g.put e.1 (key.withTag .text) else g) g

/-- The graph in which the entries that a mapping merges stand in front of its own. A mapping merges
the entries of another one, or those of a list of mappings from the last one to the first. In what
is merged, the same has been done before. `depth` bounds the number of mappings on the way. -/
def flatten : Nat → Graph → NodeId → Except YamlError Graph
  | 0, g, _ => .ok g
  | depth + 1, g, n => do
    let mergeOne (state : Graph × List (NodeId × NodeId)) (_ : NodeId × NodeId) :
        Except YamlError (Graph × List (NodeId × NodeId)) := do
      let (g, merged) := state
      match mergeEntry? g n with
      | none => pure (g, merged)
      | some (index, value) =>
        let g := g.putEntries n ((g.entries n).eraseIdx index)
        match g.node value with
        | .mapping _ _ => do
          let g ← flatten depth g value
          pure (g, merged ++ g.entries value)
        | .sequence _ items => do
          let (g, groups) ← items.foldlM (fun (g, groups) item =>
            match g.node item with
            | .mapping _ _ => do
              let g ← flatten depth g item
              pure (g, g.entries item :: groups)
            | _ => throw .malformed) (g, ([] : List (List (NodeId × NodeId))))
          pure (g, merged ++ groups.flatten)
        | .scalar _ _ => throw .malformed
    let (g, merged) ← (g.entries n).foldlM mergeOne (g, [])
    let g := plainKeys g n
    pure (if merged.isEmpty then g else g.putEntries n (merged ++ g.entries n))
termination_by structural depth => depth

/-! ### Collections -/

/-- Checks that a part can be a key: collections are no keys. -/
def requireKey : Part → Outlining Unit
  | .value v => if v.isKey then pure () else malformed
  | .inclusion n => modify fun s => { s with steps := s.steps.push (.key n) }
  | .collection _ => malformed

/-- Entries with one more: an entry with the same node as its key keeps its place and takes the new
value. -/
def insertByNode (entries : List (NodeId × Part × Part)) (n : NodeId) (key value : Part) :
    List (NodeId × Part × Part) :=
  match entries with
  | [] => [(n, key, value)]
  | e :: r => if e.1 = n then (n, key, value) :: r else e :: insertByNode r n key value

/-- The entries of a mapping, after those that it merges. No node is a key twice. -/
def entriesOf (n : NodeId) : Outlining (List (Part × Part)) := do
  let g := (← get).graph
  let g ← MonadExcept.ofExcept (flatten (g.size + 1) g n)
  modify fun s => { s with graph := g }
  let entries ← (g.entries n).foldlM (fun entries e => do
    let key ← partOf e.1
    requireKey key
    pure (insertByNode entries e.1 key (← partOf e.2))) []
  pure (entries.map (·.2))

/-- The pair that a mapping of one entry is. -/
def pairOf (n : NodeId) : Outlining (Part × Part) := do
  match ← node n with
  | .mapping _ [(k, v)] => do
    let key ← partOf k
    pure (key, ← partOf v)
  | _ => malformed

/-- The content of the collection of a node. -/
def contentOf (n : NodeId) : Outlining Collection := do
  match ← node n with
  | .sequence .sequence items => do pure (.list (← items.mapM partOf))
  | .sequence .pairs items => do pure (.pairs (← items.mapM pairOf))
  | .mapping .mapping _ => do pure (.mapping (← entriesOf n))
  | .mapping .set _ => do pure (.set (← entriesOf n))
  | _ => malformed

/-- Finds the contents of all collections that have begun from the one of an index on. Every node
begins at most one collection, so their number bounds the steps. -/
def complete (index : Nat) : Nat → Outlining Unit
  | 0 => pure ()
  | rest + 1 => do
    match (← get).begun[index]? with
    | none => pure ()
    | some n =>
      let content ← contentOf n
      modify fun s => { s with collections := s.collections.setIfInBounds n (some content) }
      complete (index + 1) rest

end Outlining

namespace Outline

/-- The outline of a graph with a first node. -/
def ofGraph (g : Graph) (n : NodeId) : Outline :=
  let start : OutlineState :=
    ⟨g, Array.replicate g.size none, #[], Array.replicate g.size none, 0, #[]⟩
  let steps : Outlining Part := do
    let root ← Outlining.partOf n
    Outlining.complete 0 (g.size + 1)
    pure root
  match steps start with
  | .ok root s => ⟨s.steps.toList, .ok root, s.collections⟩
  | .error e s => ⟨s.steps.toList, .error e, s.collections⟩

/-- The outline of a text. -/
def ofText (text : String) : Except YamlError Outline :=
  (document text).map fun (g, n) => ofGraph g n

/-! ### The value of an outline -/

/-- A value, the labels in it that stand for collections around it, and the labels of the
collections in it that contain themselves. -/
structure OpenValue where
  /-- The value. -/
  value : Value
  /-- The labels without their collections. -/
  labels : List Label
  /-- The labels with their collections. -/
  knots : List Label

namespace OpenValue

/-- A value that stands alone. -/
def closed (v : Value) : OpenValue := ⟨v, [], []⟩

/-- The labels of two parts. -/
def joinLabels (ls ms : List Label) : List Label := ls ++ ms.filter fun l => !ls.contains l

/-- A value with the labels of its parts. -/
def ofParts (value : Value) (parts : List OpenValue) : OpenValue :=
  parts.foldr (fun p v => ⟨v.value, joinLabels p.labels v.labels, joinLabels p.knots v.knots⟩)
    (closed value)

/-- The collection of a label with some content; it is a knot if it contains itself. -/
def tie (label : Label) (v : OpenValue) : OpenValue :=
  if v.labels.isEmpty && !v.knots.contains label then v
  else
    ⟨.knot label v.value, v.labels.filter (· != label), joinLabels [label] v.knots⟩

end OpenValue

/-- The values that collections have, as far as they are known. -/
abbrev Known := StateM (Array (Option OpenValue))

/-- The values of pairs of parts, if `part` gives those of parts. -/
def pairValues (part : Part → Known OpenValue) (pairs : List (Part × Part)) :
    Known (List (OpenValue × OpenValue)) :=
  pairs.mapM fun p => do
    let first ← part p.1
    pure (first, ← part p.2)

/-- The value of a collection, if `part` gives those of parts. -/
def contentValue (part : Part → Known OpenValue) : Option Collection → Known OpenValue
  | none => pure (.closed .null)
  | some (.list items) => do
    let vs ← items.mapM part
    pure (.ofParts (.list (vs.map (·.value))) vs)
  | some (.pairs pairs) => do
    let ps ← pairValues part pairs
    pure (.ofParts (.list (ps.map fun p => .pair p.1.value p.2.value))
      (ps.flatMap fun p => [p.1, p.2]))
  | some (.mapping entries) => do
    let ps ← pairValues part entries
    pure (.ofParts (.ofEntries (ps.map fun p => (p.1.value, p.2.value))) (ps.map (·.2)))
  | some (.set entries) => do
    let ps ← pairValues part entries
    let keys := Value.mergeEntries [] (ps.map fun p => (p.1.value, .null))
    pure (.closed (.ofMembers (keys.map (·.1))))

/-- The value of a part. `file` counts the files on the way to the text, `included` has the contents
of the included files, `around` has the nodes of the collections around the part, and `depth` bounds
their number. -/
def partValue (o : Outline) (file : Nat) (included : List Value) :
    Nat → List NodeId → Part → Known OpenValue
  | _, _, .value v => pure (.closed v)
  | _, _, .inclusion n => pure (.closed ((included[n]?).getD .null))
  | 0, _, .collection _ => pure (.closed .null)
  | depth + 1, around, .collection n => do
    let label : Label := ⟨file, n⟩
    match ((← get)[n]?).join with
    | some v => pure v
    | none =>
      if around.contains n then pure ⟨.again label, [label], []⟩
      else
        let content ←
          contentValue (partValue o file included depth (n :: around)) ((o.collections[n]?).join)
        let v := content.tie label
        if v.labels.isEmpty then modify fun known => known.setIfInBounds n (some v)
        pure v

/-- The value of an outline with a given root. No collection stands in itself more than once, so the
number of nodes bounds the depth. -/
def value (o : Outline) (root : Part) (file : Nat) (included : List Value) : Value :=
  let known : Array (Option OpenValue) := Array.replicate o.collections.size none
  ((o.partValue file included (o.collections.size + 1) [] root).run known).1.value

/-! ### Loading by outlines -/

/-- The course of loading the text of an outline, with the contents of the files that have been
included already and the steps that are left. -/
def loading (o : Outline) (file : Nat) : List Value → List Step → Loading
  | included, [] =>
    match o.root with
    | .ok root => .done (o.value root file included)
    | .error e => .fault e
  | included, .inclusion path :: rest =>
    .inclusion path fun v => o.loading file (included ++ [v]) rest
  | included, .key n :: rest =>
    if ((included[n]?).getD .null).isKey then o.loading file included rest else .fault .malformed

/-- Loads texts by their outlines. -/
def reader : Reader := fun file text =>
  match ofText text with
  | .ok o => o.loading file [] o.steps
  | .error e => .fault e

end Outline

end RamlClient.Yaml
