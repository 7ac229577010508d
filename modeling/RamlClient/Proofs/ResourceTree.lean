import Mathlib.Data.List.DropRight
import RamlClient.Proofs.DistinctKeys
import RamlClient.Proofs.InOrder
import RamlClient.Proofs.UriPieces
/-!
# The tree of resources and the document

A document is nested like the tree of resources that is built from it: a level is an entry whose key
starts with a slash, together with the entries of its section. The way to a level goes through the
levels around it. A place is the list of the positions on the way, and in lexicographic order a
place comes before those inside of it, and these come before the places after it.

The resources that are walked over stand at the places of all levels in this order, and each one
says what the levels on its way say: `walkResources_mirrors`. Nothing is passed on between levels
but the path and the parameters, which go down from a level to those inside of it.
-/

namespace RamlClient.Api

/-! ### Levels of a document -/

/-- An entry that declares a resource. -/
structure Level where
  /-- The key of the entry. -/
  uri : String
  /-- The entries of its section. -/
  entries : List (Value × Value)

/-- The entry at a position is a level. -/
def LevelAt (entries : List (Value × Value)) (i : Nat) (level : Level) : Prop :=
  ∃ value, entries[i]? = some (.text level.uri, value) ∧ Text.startsWith level.uri "/" = true ∧
    sectionEntries level.uri value = .ok level.entries

/-- At a place there is a level, and the levels on the way to it are these. -/
inductive StandsAt : List (Value × Value) → List Nat → List Level → Prop where
  /-- The level is one of the entries. -/
  | last {entries : List (Value × Value)} {i : Nat} {level : Level} (h : LevelAt entries i level) :
    StandsAt entries [i] [level]
  /-- The level is inside of one of the entries. -/
  | inside {entries : List (Value × Value)} {i : Nat} {level : Level} {place : List Nat}
    {way : List Level} (h : LevelAt entries i level) (hway : StandsAt level.entries place way) :
    StandsAt entries (i :: place) (level :: way)

/-- The keys on a way. -/
def keysOf (way : List Level) : List String := way.map Level.uri

/-- There is one level at a position. -/
theorem LevelAt.unique {entries : List (Value × Value)} {i : Nat} {level other : Level}
    (h : LevelAt entries i level) (ho : LevelAt entries i other) : level = other := by
  obtain ⟨value, hentry, -, hinner⟩ := h
  obtain ⟨value', hentry', -, hinner'⟩ := ho
  obtain ⟨huri, rfl⟩ : level.uri = other.uri ∧ value = value' := by simpa [hentry] using hentry'
  rw [← huri, hinner] at hinner'
  cases level
  cases other
  cases huri
  cases hinner'
  rfl

/-- A place has at least one position. -/
theorem StandsAt.place_ne_nil {entries : List (Value × Value)} {place : List Nat} {way : List Level}
    (h : StandsAt entries place way) : place ≠ [] := by
  cases h <;> exact List.cons_ne_nil _ _

/-- A way has at least one level. -/
theorem StandsAt.way_ne_nil {entries : List (Value × Value)} {place : List Nat} {way : List Level}
    (h : StandsAt entries place way) : way ≠ [] := by
  cases h <;> exact List.cons_ne_nil _ _

/-! ### Entries by their keys -/

/-- A key declares a resource if it is a text that begins with a slash. -/
theorem relativeUri?_eq_some_iff {key : Value} {s : String} :
    relativeUri? key = some s ↔ key = .text s ∧ Text.startsWith s "/" = true := by
  cases key with
  | text t =>
    rw [relativeUri?, Option.ite_none_right_eq_some, Value.text.injEq, and_comm, Option.some_inj]
    exact and_congr_right fun heq => by rw [heq]
  | _ => exact ⟨nofun, by rintro ⟨⟨⟩, -⟩⟩

/-- The entries whose keys are texts of one kind are in the order of the document. -/
theorem inOrder_keyed {key? : Value → Option String} {P : String → Prop}
    (hkey : ∀ {k s}, key? k = some s ↔ k = .text s ∧ P s) (entries : List (Value × Value)) :
    ∃ places, InOrder
      (fun (i : Nat) (item : String × Value) => entries[i]? = some (Value.text item.1, item.2) ∧
        P item.1)
      places (entries.filterMap fun e => (key? e.1).map (·, e.2)) := by
  obtain ⟨places, h⟩ := inOrder_filterMap (fun e : Value × Value => (key? e.1).map (·, e.2)) entries
  refine ⟨places, h.congr fun i item => ⟨?_, ?_⟩⟩
  · rintro ⟨⟨k, value⟩, he, hitem⟩
    obtain ⟨s, hs, rfl⟩ := Option.map_eq_some_iff.1 hitem
    obtain ⟨rfl, hP⟩ := hkey.1 hs
    exact ⟨he, hP⟩
  · rintro ⟨he, hP⟩
    exact ⟨_, he, by simp [hkey.2 ⟨rfl, hP⟩]⟩

/-! ### Ways and resources -/

/-- A resource is what is built on a way, from the path and the parameters above it. -/
inductive BuiltOn (ctx : BuildContext) : String → List Parameter → List Level → Resource →
    Prop where
  /-- The resource is the node for the last level, with whatever is below it. -/
  | last {path : String} {parameters : List Parameter} {level : Level} {node : Resource}
    (below : List Resource) (h : buildNode ctx path parameters level.uri level.entries = .ok node) :
    BuiltOn ctx path parameters [level] { node with resources := below }
  /-- The resource is below the node for the first level. -/
  | inside {path : String} {parameters : List Parameter} {level : Level} {node : Resource}
    {way : List Level} {r : Resource}
    (h : buildNode ctx path parameters level.uri level.entries = .ok node)
    (hway : BuiltOn ctx node.path node.uriParameters way r) :
    BuiltOn ctx path parameters (level :: way) r

/-- The way starts at an entry. -/
def StandsUnder (entries : List (Value × Value)) (i : Nat) (place : List Nat) (way : List Level) :
    Prop :=
  ∃ level, LevelAt entries i level ∧ (place = [i] ∧ way = [level] ∨
    ∃ p w, place = i :: p ∧ way = level :: w ∧ StandsAt level.entries p w)

/-- What stands at a place stands under the first entry of the place. -/
theorem standsAt_iff {entries : List (Value × Value)} {place : List Nat} {way : List Level} :
    StandsAt entries place way ↔ ∃ i, StandsUnder entries i place way := by
  constructor
  · rintro (h | ⟨h, hway⟩)
    · exact ⟨_, _, h, .inl ⟨rfl, rfl⟩⟩
    · exact ⟨_, _, h, .inr ⟨_, _, rfl, rfl, hway⟩⟩
  · rintro ⟨i, level, h, ⟨rfl, rfl⟩ | ⟨p, w, rfl, rfl, hway⟩⟩
    · exact .last h
    · exact .inside h hway

/-- A place under an entry begins with the position of the entry. -/
theorem StandsUnder.exists_tail {entries : List (Value × Value)} {i : Nat} {place : List Nat}
    {way : List Level} (h : StandsUnder entries i place way) : ∃ p, place = i :: p := by
  obtain ⟨level, -, ⟨rfl, -⟩ | ⟨p, w, rfl, -, -⟩⟩ := h
  · exact ⟨[], rfl⟩
  · exact ⟨p, rfl⟩

/-- Under an entry, its own level comes first and then what is inside of it. -/
theorem inOrder_under {entries : List (Value × Value)} {i : Nat} {level : Level}
    (h : LevelAt entries i level) {places : List (List Nat)} {ways : List (List Level)}
    (hinside : InOrder (StandsAt level.entries) places ways) :
    InOrder (StandsUnder entries i) ([i] :: places.map (i :: ·))
      ([level] :: ways.map (level :: ·)) := by
  have hmoved := hinside.map (f := (i :: ·)) (level :: ·) fun p q hlt => List.cons_lt_cons_iff.2
    (.inr ⟨rfl, hlt⟩)
  refine ((InOrder.singleton [i] [level]).append hmoved ?_).congr fun place way => ⟨?_, ?_⟩
  · rintro _ _ ⟨_, rfl, -⟩ ⟨_, p, w, rfl, -, hp⟩
    obtain ⟨j, q, rfl⟩ := List.exists_cons_of_ne_nil hp.place_ne_nil
    exact List.cons_lt_cons_iff.2 (.inr ⟨rfl, List.nil_lt_cons j q⟩)
  · exact fun hstands => ⟨level, h, hstands⟩
  · rintro ⟨other, hother, hstands⟩
    obtain rfl := h.unique hother
    exact hstands

/-- A block for each of some entries, where each entry gives a tree. -/
theorem exists_blocks {α κ β : Type} [LT κ] {stands : Nat → α → Prop} {gives : α → Resource → Prop}
    {W : Nat → κ → β → Prop} {B : β → Resource → Prop} {ps : List Nat} {as : List α}
    {rs : List Resource} (has : List.Forall₂ stands ps as) (hrs : List.Forall₂ gives as rs)
    (hblock : ∀ i a r, stands i a → gives a r →
      ∃ places bs, InOrder (W i) places bs ∧ List.Forall₂ B bs r.walk) :
    ∃ blocks : List (List κ × List β), List.Forall₂ (fun i b => InOrder (W i) b.1 b.2) ps blocks ∧
      List.Forall₂ B (blocks.flatMap (·.2)) (walkAll rs) := by
  induction has generalizing rs with
  | nil =>
    cases hrs
    exact ⟨[], .nil, .nil⟩
  | cons ha _ ih =>
    cases hrs with
    | cons hr hrest =>
      obtain ⟨places, bs, hbs, hbuilt⟩ := hblock _ _ _ ha hr
      obtain ⟨blocks, hblocks, hall⟩ := ih hrest
      exact ⟨(places, bs) :: blocks, .cons hbs hblocks, List.rel_append hbuilt hall⟩

/-- The resources that are built stand at the places of all levels, in the order of the document. -/
theorem exists_ways {ctx : BuildContext} {depth : Nat} {path : String} {parameters : List Parameter}
    {entries : List (Value × Value)} {rs : List Resource}
    (h : buildResources ctx depth path parameters entries = .ok rs) :
    ∃ places ways, InOrder (StandsAt entries) places ways ∧
      List.Forall₂ (BuiltOn ctx path parameters) ways (walkAll rs) := by
  induction depth generalizing path parameters entries rs with
  | zero => cases h
  | succ depth ih =>
    obtain ⟨tops, htops⟩ := inOrder_keyed relativeUri?_eq_some_iff entries
    obtain ⟨blocks, hblocks, hbuilt⟩ : ∃ blocks : List (List (List Nat) × List (List Level)),
        List.Forall₂ (fun i b => InOrder (StandsUnder entries i) b.1 b.2) tops blocks ∧
          List.Forall₂ (BuiltOn ctx path parameters) (blocks.flatMap (·.2)) (walkAll rs) := by
      refine exists_blocks htops.stands (Building.forall₂_of_mapM h) fun i item r hitem hr => ?_
      obtain ⟨inner, hinner, hr⟩ := Building.bind_eq_ok.1 hr
      obtain ⟨node, hnode, hr⟩ := Building.bind_eq_ok.1 hr
      obtain ⟨below, hbelow, hr⟩ := Building.bind_eq_ok.1 hr
      cases hr
      have hlevel : LevelAt entries i ⟨item.1, inner⟩ := ⟨item.2, hitem.1, hitem.2, hinner⟩
      obtain ⟨places, ways, hways, hinside⟩ := ih hbelow
      refine ⟨_, _, inOrder_under hlevel hways, ?_⟩
      rw [walk_eq]
      refine .cons (.last below hnode) ?_
      rw [List.forall₂_map_left_iff]
      exact hinside.imp fun _ _ => .inside hnode
    refine ⟨_, _, (InOrder.flatten htops.sorted hblocks ?_).congr fun place way => ?_, hbuilt⟩
    · -- What is under an earlier entry has a smaller first position.
      rintro i j k l hlt ⟨_, hk⟩ ⟨_, hl⟩
      obtain ⟨p, rfl⟩ := hk.exists_tail
      obtain ⟨q, rfl⟩ := hl.exists_tail
      exact List.cons_lt_cons_iff.2 (.inl hlt)
    · rw [standsAt_iff]
      refine exists_congr fun i => and_iff_right_of_imp ?_
      rintro ⟨level, ⟨value, hentry, hslash, -⟩, -⟩
      exact (htops.complete i).2 ⟨(level.uri, value), hentry, hslash⟩

/-- Where all keys are different, a level is at one position only. -/
theorem LevelAt.position_eq {entries : List (Value × Value)} {i j : Nat} {level other : Level}
    (h : LevelAt entries i level) (ho : LevelAt entries j other) (hkeys : Value.KeysApart entries)
    (huri : level.uri = other.uri) : i = j := by
  obtain ⟨value, hentry, -, -⟩ := h
  obtain ⟨value', hentry', -, -⟩ := ho
  obtain ⟨hi, hgeti⟩ := List.getElem?_eq_some_iff.1 hentry
  obtain ⟨hj, hgetj⟩ := List.getElem?_eq_some_iff.1 hentry'
  have hsame (s : String) : (Value.text s).sameKey (.text s) = true := Value.sameKey_text_iff.2 rfl
  have hapart := List.pairwise_iff_getElem.1 hkeys
  rcases Nat.lt_trichotomy i j with hlt | heq | hlt
  · simpa [hgeti, hgetj, huri, hsame] using hapart i j hi hj hlt
  · exact heq
  · simpa [hgeti, hgetj, huri, hsame] using hapart j i hj hi hlt

/-- In a document without repeated keys, no two places have the same keys on their ways. -/
theorem StandsAt.place_eq {entries : List (Value × Value)} {place place' : List Nat}
    {way way' : List Level} (h : StandsAt entries place way) (h' : StandsAt entries place' way')
    (hdistinct : (Value.mapping entries).KeysDistinct) (hkeys : keysOf way = keysOf way') :
    place = place' := by
  induction h generalizing place' way' with
  | last h =>
    cases h' with
    | last h' =>
      rw [h.position_eq h' (Value.KeysDistinct.mapping_iff.1 hdistinct).1 (List.cons.inj hkeys).1]
    | inside _ hway =>
        exact absurd (List.map_eq_nil_iff.1 (List.cons.inj hkeys).2.symm) hway.way_ne_nil
  | inside h hway ih =>
    cases h' with
    | last _ => exact absurd (List.map_eq_nil_iff.1 (List.cons.inj hkeys).2) hway.way_ne_nil
    | inside h' hway' =>
      obtain ⟨huri, htail⟩ := List.cons.inj hkeys
      have hpos := h.position_eq h' (Value.KeysDistinct.mapping_iff.1 hdistinct).1 huri
      subst hpos
      obtain rfl := h.unique h'
      obtain ⟨value, hentry, -, hinner⟩ := h
      have hvalue := (Value.KeysDistinct.mapping_iff.1 hdistinct).2 _ (List.mem_of_getElem? hentry)
      rw [ih hway' (hvalue.sectionEntries hinner) htail]

/-! ### What a level says -/

/-- A name between braces stands at a position. -/
def OccursAt (cs : List Char) (i : Nat) (name : List Char) : Prop :=
  name ≠ [] ∧ (∀ c ∈ name, isNoBrace c = true) ∧ '\x7b' :: (name ++ ['\x7d']) <+: cs.drop i

/-- What a parameter for a name is, where some parameters are declared. -/
structure IsParameter (declared : List Parameter) (name : String) (p : Parameter) : Prop where
  /-- It has the name. -/
  name_eq : p.name = name
  /-- It is required. -/
  required : p.type.required = true
  /-- Its type is declared; what is declared last for the name counts. -/
  declared_type : ∀ before q after, declared = before ++ q :: after → q.name = name →
    (∀ d ∈ after, d.name ≠ name) → p.type = { q.type with required := true }
  /-- If no type is declared, it is a text. -/
  default_type : (∀ q ∈ declared, q.name ≠ name) → p.type = .named "string" true

/-- The parameters that a level adds: one for each name between braces in its key. -/
def LevelParameters (level : Level) (ps : List Parameter) : Prop :=
  ∃ declared places names, buildParameters (facet level.entries "uriParameters") = .ok declared ∧
    InOrder (OccursAt level.uri.toList) places names ∧
    List.Forall₂ (fun name p => IsParameter declared (String.ofList name) p) names ps

/-- The entry at a position has a verb as its key. -/
def OperationAt (entries : List (Value × Value)) (i : Nat) (item : String × Value) : Prop :=
  entries[i]? = some (.text item.1, item.2) ∧ item.1 ∈ verbs

/-- An operation has the verb of its entry, and its traits are those of the level and then its
own. -/
def OperationFor (traits shared : List Trait) (item : String × Value) (m : Method) : Prop :=
  m.verb = item.1 ∧ ∃ entries own, sectionEntries item.1 item.2 = .ok entries ∧
    traitRefs traits (facet entries "is") = .ok own ∧ m.traits = shared ++ own

/-- The operations of a level: one for each verb among its keys. -/
def LevelOperations (traits : List Trait) (level : Level) (ms : List Method) : Prop :=
  ∃ shared places items, traitRefs traits (facet level.entries "is") = .ok shared ∧
    InOrder (OperationAt level.entries) places items ∧
      List.Forall₂ (OperationFor traits shared) items ms

/-- The path of keys: each one is put after what is before it without the slashes at its end. -/
def pathOf (keys : List String) : String :=
  keys.foldl (fun path key => String.ofList (path.toList.rdropWhile (· == '/')) ++ key) ""

/-- A resource says what the levels on a way say. -/
structure Mirrors (traits : List Trait) (way : List Level) (r : Resource) : Prop where
  /-- The part of the path that is its own is the last key. -/
  relativeUri : (keysOf way).getLast? = some r.relativeUri
  /-- The path is put together from the keys. -/
  path : r.path = pathOf (keysOf way)
  /-- The parameters are those of the levels, one level after another. -/
  uriParameters : ∃ own, List.Forall₂ LevelParameters way own ∧ r.uriParameters = own.flatten
  /-- The operations are those of the last level alone. -/
  methods : ∃ level, way.getLast? = some level ∧ LevelOperations traits level r.methods

/-! ### Parameters -/

/-- A name stands at the start of a text if the text can be taken apart there. -/
theorem occursAt_zero_iff {c : Char} {r name : List Char} : OccursAt (c :: r) 0 name ↔
    (c = '\x7b' ∧ r.takeWhile isNoBrace ≠ [] ∧ (r.dropWhile isNoBrace).head? = some '\x7d') ∧
      name = r.takeWhile isNoBrace := by
  constructor
  · rintro ⟨hne, hname, hstart⟩
    obtain ⟨rfl, rest, hrest⟩ := List.cons_prefix_cons.1 hstart
    obtain rfl : r = name ++ '\x7d' :: rest := by simpa using hrest.symm
    rw [takeWhile_name hname, dropWhile_name hname]
    exact ⟨⟨rfl, hne, rfl⟩, rfl⟩
  · rintro ⟨⟨rfl, hne, hclosed⟩, rfl⟩
    obtain ⟨rest, hrest⟩ := List.head?_eq_some_iff.1 hclosed
    refine ⟨hne, fun c hc => List.mem_takeWhile_imp hc, List.cons_prefix_cons.2 ⟨rfl, rest, ?_⟩⟩
    rw [List.append_assoc, List.singleton_append, ← hrest, List.takeWhile_append_dropWhile]

/-- The names between braces are found from left to right. -/
theorem inOrder_placeholders (cs : List Char) :
    ∃ places, InOrder (OccursAt cs) places (placeholders cs) := by
  induction cs with
  | nil => exact ⟨[], .nil fun i name h => by simpa using h.2.2⟩
  | cons c r ih =>
    obtain ⟨places, h⟩ := ih
    rw [placeholders]
    split
    · rename_i hopens
      exact ⟨_, h.cons (fun name => occursAt_zero_iff.trans (and_iff_right hopens)) fun i name =>
        Iff.rfl⟩
    · rename_i hopens
      exact ⟨_, h.skip (fun name hname => hopens (occursAt_zero_iff.1 hname).1) fun i name =>
        Iff.rfl⟩

/-- The parameter that is made for a name is one for it. -/
theorem isParameter_placeholder (declared : List Parameter) (name : String) :
    IsParameter declared name (placeholderParameter declared name) where
  name_eq := name_placeholderParameter declared name
  required := by
    unfold placeholderParameter
    split <;> rfl
  declared_type before q after hdeclared hq hafter := by
    have hnone : after.reverse.find? (·.name == name) = none := by simpa using hafter
    simp [placeholderParameter, hdeclared, hnone, hq]
  default_type hnone := by
    have hfind : declared.reverse.find? (·.name == name) = none := by simpa using hnone
    simp [placeholderParameter, hfind]

/-! ### Nodes -/

section Nodes

variable {ctx : BuildContext} {path : String} {parameters : List Parameter}

/-- The parameters of a resource are those above it and then those of its level. -/
theorem uriParameters_of_buildNode {level : Level} {node : Resource}
    (h : buildNode ctx path parameters level.uri level.entries = .ok node) :
    ∃ own, LevelParameters level own ∧ node.uriParameters = parameters ++ own := by
  obtain ⟨declared, hdeclared, hparameters⟩ := (nodeBuilt_of_buildNode h).uriParameters
  obtain ⟨places, hplaces⟩ := inOrder_placeholders level.uri.toList
  refine ⟨_, ⟨declared, places, _, hdeclared, hplaces, ?_⟩, hparameters⟩
  rw [List.forall₂_map_right_iff, List.forall₂_same]
  exact fun name _ => isParameter_placeholder declared _

/-- The operations of a node are built from the entries with verbs, with the traits of the node. -/
theorem exists_operations {level : Level} {node : Resource}
    (h : buildNode ctx path parameters level.uri level.entries = .ok node) :
    ∃ shared places items, traitRefs ctx.traits (facet level.entries "is") = .ok shared ∧
      InOrder (OperationAt level.entries) places items ∧
      List.Forall₂ (fun item m => buildMethod ctx shared item.1 item.2 = .ok m)
        items node.methods := by
  obtain ⟨shared, hshared, hmethods⟩ := (nodeBuilt_of_buildNode h).methods
  obtain ⟨places, hplaces⟩ := inOrder_keyed verb?_eq_some_iff level.entries
  exact ⟨shared, places, _, hshared, hplaces, Building.forall₂_of_mapM hmethods⟩

/-- A method that is built is the operation of its entry. -/
theorem operationFor_of_buildMethod {shared : List Trait} {item : String × Value} {m : Method}
    (h : buildMethod ctx shared item.1 item.2 = .ok m) : OperationFor ctx.traits shared item m := by
  obtain ⟨entries, hentries, hbuilt⟩ := methodBuilt_of_buildMethod h
  obtain ⟨own, hown, htraits⟩ := hbuilt.traits
  exact ⟨hbuilt.verb_eq, entries, own, hentries, hown, htraits⟩

namespace BuiltOn

variable {way : List Level} {r : Resource}

/-- The path of a resource is put together from the keys on the way to it. -/
theorem path_eq (h : BuiltOn ctx path parameters way r) :
    r.path = (keysOf way).foldl extendPath path := by
  induction h with
  | last _ h => exact (nodeBuilt_of_buildNode h).path
  | inside h _ ih => rw [ih, (nodeBuilt_of_buildNode h).path, keysOf, keysOf, List.map_cons,
      List.foldl_cons]

/-- Every level adds its parameters to those above it. -/
theorem exists_uriParameters (h : BuiltOn ctx path parameters way r) :
    ∃ own, List.Forall₂ LevelParameters way own ∧ r.uriParameters = parameters ++ own.flatten := by
  induction h with
  | last _ h =>
    obtain ⟨own, hown, heq⟩ := uriParameters_of_buildNode h
    exact ⟨[own], .cons hown .nil, by simpa using heq⟩
  | inside h _ ih =>
    obtain ⟨own, hown, heq⟩ := uriParameters_of_buildNode h
    obtain ⟨rest, hrest, hparameters⟩ := ih
    exact ⟨own :: rest, .cons hown hrest, by
      rw [hparameters, heq, List.flatten_cons, List.append_assoc]⟩

/-- What is not passed on comes from the last level alone. -/
theorem exists_last (h : BuiltOn ctx path parameters way r) :
    ∃ level above parameters' node, way.getLast? = some level ∧
      buildNode ctx above parameters' level.uri level.entries = .ok node ∧
      r.relativeUri = level.uri ∧ r.methods = node.methods := by
  induction h with
  | last _ h => exact ⟨_, _, _, _, rfl, h, (nodeBuilt_of_buildNode h).relativeUri, rfl⟩
  | inside _ _ ih =>
    obtain ⟨level, above, parameters', node, hlast, hnode, huri, hmethods⟩ := ih
    exact ⟨level, above, parameters', node, by
      rw [List.getLast?_cons, hlast]; rfl, hnode, huri, hmethods⟩

/-- A resource that is built on a way mirrors it. -/
theorem mirrors (h : BuiltOn ctx "" [] way r) : Mirrors ctx.traits way r where
  relativeUri := by
    obtain ⟨level, _, _, _, hlast, -, huri, -⟩ := h.exists_last
    rw [keysOf, List.getLast?_map, hlast, huri]
    rfl
  path := h.path_eq
  uriParameters := h.exists_uriParameters
  methods := by
    obtain ⟨level, _, _, node, hlast, hnode, -, hmethods⟩ := h.exists_last
    obtain ⟨shared, places, items, hshared, hplaces, hbuilt⟩ := exists_operations hnode
    refine ⟨level, hlast, shared, places, items, hshared, hplaces, ?_⟩
    rw [hmethods]
    exact hbuilt.imp fun _ _ => operationFor_of_buildMethod

end BuiltOn

end Nodes

/-! ### The whole tree -/

/-- The resources of a model are built on the ways of its document. -/
theorem exists_ways_of_buildModel {entries : List (Value × Value)} {api : Model}
    (h : buildModel entries = .ok api) :
    ∃ places ways, InOrder (StandsAt entries) places ways ∧
      List.Forall₂ (BuiltOn ⟨api.mediaType, api.traits⟩ "" []) ways api.walkResources := by
  exact exists_ways (modelBuilt_of_buildModel h).resources

/-- The resources that are walked over are those at the places of all levels of the document, one
for each in the order of the document, and each one says what the levels on its way say. If no
mapping of the document has a key twice, no two resources have the same keys on their ways. -/
theorem walkResources_mirrors {entries : List (Value × Value)} {api : Model}
    (h : buildModel entries = .ok api) :
    ∃ places ways, InOrder (StandsAt entries) places ways ∧
      List.Forall₂ (Mirrors api.traits) ways api.walkResources ∧
      ((Value.mapping entries).KeysDistinct → (ways.map keysOf).Nodup) := by
  obtain ⟨places, ways, hways, hbuilt⟩ := exists_ways_of_buildModel h
  refine ⟨places, ways, hways, hbuilt.imp fun _ _ hb => hb.mirrors, fun hdistinct => ?_⟩
  exact hways.nodup_map (fun place => List.lt_irrefl place) keysOf fun _ _ _ _ hp hq hkeys =>
    hp.place_eq hq hdistinct hkeys

/-- A document with resources inside of a section that is merged from a list. -/
def treeDocument : List (Value × Value) :=
  [(.text "traits", .mapping [(.text "paged", .mapping []), (.text "sorted", .mapping [])]),
   (.text "/users/", .list
    [.mapping [(.text "is", .text "paged"), (.text "get", .mapping [(.text "is", .text "sorted")])],
     .mapping [(.text "/\x7bid\x7d:\x7btab\x7d", .mapping
      [(.text "uriParameters", .mapping [(.text "id", .text "integer?")]),
        (.text "post", .null)])]]),
   (.text "/files", .null)]

/-- The keys of the document are different. -/
theorem keysDistinct_treeDocument : (Value.mapping treeDocument).KeysDistinct := by
  simp only [treeDocument, Value.KeysDistinct.mapping_iff, Value.KeysDistinct.list_iff,
    Value.KeysDistinct.text, Value.KeysDistinct.null, List.forall_mem_cons, List.not_mem_nil,
    false_imp_iff, implies_true, and_true]
  decide

/-- All three resources of the document are walked over, the one inside of the list right after the
one that the list is for. -/
theorem walkResources_mirrors_tree : ∃ api, buildModel treeDocument = .ok api ∧
    api.walkResources.map
      (fun r => (r.path, r.uriParameters.map (·.name), r.methods.map (·.verb))) =
      [("/users/", [], ["get"]), ("/users/\x7bid\x7d:\x7btab\x7d", ["id", "tab"], ["post"]),
        ("/files", [], [])] ∧
    ∃ places ways, InOrder (StandsAt treeDocument) places ways ∧
      List.Forall₂ (Mirrors api.traits) ways api.walkResources ∧ (ways.map keysOf).Nodup := by
  have hbuilt : ∃ api, buildModel treeDocument = .ok api := ⟨_, rfl⟩
  obtain ⟨api, hapi⟩ := hbuilt
  obtain ⟨places, ways, hways, hmirrors, hnodup⟩ := walkResources_mirrors hapi
  refine ⟨api, hapi, ?_, places, ways, hways, hmirrors, hnodup keysDistinct_treeDocument⟩
  cases hapi
  rfl

end RamlClient.Api
