import Mathlib.Data.List.Forall2
import RamlClient.Api.Build
import RamlClient.Proofs.InOrder
/-!
# Models that are built

What is known of every model that is built from a document. Steps that build a part of a model are
taken apart with `Building.bind_eq_ok`, and what holds of each node of the tree of resources holds
of all that are walked over.
-/

namespace RamlClient.Api

/-- The result of a success. -/
theorem toOption_eq_some_iff {ε α : Type} {x : Except ε α} {a : α} : x.toOption = some a ↔
    x = .ok a := by
  cases x with
  | ok b => exact ⟨fun h => congrArg Except.ok (Option.some.inj h), fun h =>
      congrArg some (Except.ok.inj h)⟩
  | error e => exact ⟨nofun, nofun⟩

namespace Building

variable {α β : Type}

/-- A row of two steps succeeds if the first one does and then the second one. -/
theorem bind_eq_ok {x : Building α} {f : α → Building β} {b : β} :
    x >>= f = .ok b ↔ ∃ a, x = .ok a ∧ f a = .ok b := by
  cases x with
  | ok a => exact ⟨fun h => ⟨a, rfl, h⟩, by rintro ⟨_, ⟨⟩, h⟩; exact h⟩
  | error e => exact ⟨nofun, by rintro ⟨_, ⟨⟩, _⟩⟩

/-- A row of steps has one result for each of them. -/
theorem forall₂_of_mapM {f : α → Building β} {as : List α} {bs : List β} (h : as.mapM f = .ok bs) :
    List.Forall₂ (fun a b => f a = .ok b) as bs := by
  induction as generalizing bs with
  | nil =>
    cases h
    exact .nil
  | cons a r ih =>
    rw [List.mapM_cons] at h
    obtain ⟨first, hfirst, h⟩ := bind_eq_ok.1 h
    obtain ⟨rest, hrest, h⟩ := bind_eq_ok.1 h
    cases h
    exact .cons hfirst (ih hrest)

/-- Every result of a row of steps is the result of one of them. -/
theorem exists_of_mem_mapM {f : α → Building β} {as : List α} {bs : List β} (h : as.mapM f = .ok bs)
    {b : β} (hb : b ∈ bs) : ∃ a ∈ as, f a = .ok b := exists_mem_of_forall₂ (forall₂_of_mapM h) hb

end Building

/-! ### What parts are built of -/

/-- An operation is built of its entries. -/
structure MethodBuilt (ctx : BuildContext) (inherited : List Trait) (verb : String)
    (entries : List (Value × Value)) (m : Method) : Prop where
  /-- The verb. -/
  verb_eq : m.verb = verb
  /-- The name to display. -/
  displayName : textIfGiven (facet entries "displayName") = .ok m.displayName
  /-- The query parameters. -/
  queryParameters : buildParameters (facet entries "queryParameters") = .ok m.queryParameters
  /-- The bodies. -/
  bodies : buildBodies ctx.mediaType (facet entries "body") = .ok m.bodies
  /-- The responses. -/
  responses : buildResponses ctx.mediaType (facet entries "responses") = .ok m.responses
  /-- Its own traits stand behind those of the resource. -/
  traits : ∃ own, traitRefs ctx.traits (facet entries "is") = .ok own ∧ m.traits = inherited ++ own

/-- A method that is built is made from the parts of its section. -/
theorem methodBuilt_of_buildMethod {ctx : BuildContext} {inherited : List Trait} {verb : String}
    {raw : Value} {m : Method} (h : buildMethod ctx inherited verb raw = .ok m) :
    ∃ entries, sectionEntries verb raw = .ok entries ∧
      MethodBuilt ctx inherited verb entries m := by
  simp only [buildMethod, Building.bind_eq_ok] at h
  obtain ⟨entries, hentries, _, hdisplayName, _, hqueryParameters, _, hbodies, _, hresponses, own,
    hown, h⟩ := h
  cases h
  exact ⟨entries, hentries, rfl, hdisplayName, hqueryParameters, hbodies, hresponses, own, hown,
    rfl⟩

/-- A resource, without those below it, is built of its entries. -/
structure NodeBuilt (ctx : BuildContext) (path : String) (parameters : List Parameter)
    (uri : String) (entries : List (Value × Value)) (node : Resource) : Prop where
  /-- The part of the path that it declares. -/
  relativeUri : node.relativeUri = uri
  /-- The path. -/
  path : node.path = extendPath path uri
  /-- A parameter for each placeholder stands behind those above. -/
  uriParameters : ∃ declared, buildParameters (facet entries "uriParameters") = .ok declared ∧
    node.uriParameters = parameters ++
      (placeholders uri.toList).map fun n => placeholderParameter declared (String.ofList n)
  /-- The operations have the traits of the resource. -/
  methods : ∃ shared, traitRefs ctx.traits (facet entries "is") = .ok shared ∧
    buildMethods ctx shared entries = .ok node.methods

/-- A resource that is built is made from the parts of its entries. -/
theorem nodeBuilt_of_buildNode {ctx : BuildContext} {path : String} {parameters : List Parameter}
    {uri : String} {entries : List (Value × Value)} {node : Resource}
    (h : buildNode ctx path parameters uri entries = .ok node) :
    NodeBuilt ctx path parameters uri entries node := by
  simp only [buildNode, Building.bind_eq_ok] at h
  obtain ⟨declared, hdeclared, shared, hshared, methods, hmethods, h⟩ := h
  cases h
  exact ⟨rfl, rfl, ⟨declared, hdeclared, rfl⟩, shared, hshared, hmethods⟩

/-- An operation of a node is built of the value of an entry with its verb. -/
theorem NodeBuilt.exists_entry {ctx : BuildContext} {path : String} {parameters : List Parameter}
    {uri : String} {entries : List (Value × Value)} {node : Resource}
    (h : NodeBuilt ctx path parameters uri entries node) {m : Method} (hm : m ∈ node.methods) :
    ∃ shared verb key raw, traitRefs ctx.traits (facet entries "is") = .ok shared ∧
    verb? key = some verb ∧
      buildMethod ctx shared verb raw = .ok m := by
  obtain ⟨shared, hshared, hmethods⟩ := h.methods
  obtain ⟨e, he, hbuilt⟩ := Building.exists_of_mem_mapM hmethods hm
  obtain ⟨entry, -, hentry⟩ := List.mem_filterMap.1 he
  obtain ⟨verb, hverb, rfl⟩ := Option.map_eq_some_iff.1 hentry
  exact ⟨shared, verb, entry.1, entry.2, hshared, hverb, hbuilt⟩

/-- A model is built of the entries of its document. -/
structure ModelBuilt (entries : List (Value × Value)) (api : Model) : Prop where
  /-- The media type. -/
  mediaType : buildMediaType entries = .ok api.mediaType
  /-- The types are built of the entries of one section, in their order. -/
  types : ∃ types, sectionEntries "types" (typesSection entries) = .ok types ∧
    types.mapM buildType = .ok api.types
  /-- The traits. -/
  traits : buildTraits api.mediaType (facet entries "traits") = .ok api.traits
  /-- The title. -/
  title : textFacet entries "title" = .ok api.title
  /-- The version. -/
  version : textFacet entries "version" = .ok api.version
  /-- The base address. -/
  baseUri : textFacet entries "baseUri" = .ok api.baseUri
  /-- The trees of resources. -/
  resources : buildResources ⟨api.mediaType, api.traits⟩ (resourceDepth entries) "" [] entries =
    .ok api.resources

/-- A model that is built is made from the parts of its document. -/
theorem modelBuilt_of_buildModel {entries : List (Value × Value)} {api : Model}
    (h : buildModel entries = .ok api) : ModelBuilt entries api := by
  simp only [buildModel, Building.bind_eq_ok] at h
  obtain ⟨mediaType, hmediaType, typeEntries, htypeEntries, types, htypes, traits, htraits, title,
    htitle, version, hversion, baseUri, hbaseUri, resources, hresources, h⟩ := h
  cases h
  exact ⟨hmediaType, ⟨typeEntries, htypeEntries, htypes⟩, htraits, htitle, hversion, hbaseUri,
    hresources⟩

/-! ### Trees of resources -/

/-- A walk visits a resource and then all those below it. -/
theorem walk_eq (r : Resource) : r.walk = r :: walkAll r.resources := by
  cases r
  rfl

/-- The nodes of some trees are their roots and the nodes below. -/
theorem mem_walkAll {rs : List Resource} {r : Resource} :
    r ∈ walkAll rs ↔ ∃ root ∈ rs, r = root ∨ r ∈ walkAll root.resources := by
  induction rs with
  | nil => simp [walkAll]
  | cons root rest ih => simp [walkAll, walk_eq, ih, or_assoc]

/-- A root of the trees is a node with the trees for the entries of its own below it. -/
theorem exists_node_of_mem_buildResources {ctx : BuildContext} {depth : Nat} {path : String}
    {parameters : List Parameter} {entries : List (Value × Value)} {rs : List Resource}
    (h : buildResources ctx depth path parameters entries = .ok rs) {root : Resource}
    (hroot : root ∈ rs) :
    ∃ uri inner node below smaller, buildNode ctx path parameters uri inner = .ok node ∧
      buildResources ctx smaller node.path node.uriParameters inner = .ok below ∧
      root = { node with resources := below } := by
  cases depth with
  | zero => cases h
  | succ depth =>
    obtain ⟨e, -, he⟩ := Building.exists_of_mem_mapM h hroot
    obtain ⟨inner, -, he⟩ := Building.bind_eq_ok.1 he
    obtain ⟨node, hbuilt, he⟩ := Building.bind_eq_ok.1 he
    obtain ⟨below, hbelow, he⟩ := Building.bind_eq_ok.1 he
    cases he
    exact ⟨e.1, inner, node, below, depth, hbuilt, hbelow, rfl⟩

/-- The way from the roots of trees to a node, by the relative URIs. -/
inductive ChainTo : List Resource → List String → Resource → Prop where
  /-- The node is a root. -/
  | root {rs : List Resource} {r : Resource} (h : r ∈ rs) : ChainTo rs [r.relativeUri] r
  /-- The node is under a root. -/
  | under {rs : List Resource} {root r : Resource} {chain : List String} (h : root ∈ rs)
      (hunder : ChainTo root.resources chain r) : ChainTo rs (root.relativeUri :: chain) r

/-- A chain among some resources is one among more. -/
theorem ChainTo.mono {rs ss : List Resource} {chain : List String} {r : Resource} (hsub : rs ⊆ ss)
    (h : ChainTo rs chain r) : ChainTo ss chain r := by
  cases h with
  | root h => exact .root (hsub h)
  | under h hunder => exact .under (hsub h) hunder

/-- The nodes of trees are what there is a way to. -/
theorem mem_walkAll_iff_chainTo {rs : List Resource} {r : Resource} :
    r ∈ walkAll rs ↔ ∃ chain, ChainTo rs chain r := by
  constructor
  · refine walkAll.induct (fun root => r ∈ root.walk → r = root ∨
      ∃ chain, ChainTo root.resources chain r)
        (fun rs => r ∈ walkAll rs → ∃ chain, ChainTo rs chain r) ?_ ?_ ?_ rs
    · intro relativeUri path uriParameters methods resources ih h
      rw [walk_eq] at h
      exact (List.mem_cons.1 h).imp_right ih
    · intro h
      cases h
    · intro root rest ihroot ihrest h
      rcases List.mem_append.1 h with h | h
      · obtain rfl | ⟨chain, hchain⟩ := ihroot h
        · exact ⟨_, .root List.mem_cons_self⟩
        · exact ⟨_, .under List.mem_cons_self hchain⟩
      · obtain ⟨chain, hchain⟩ := ihrest h
        exact ⟨chain, hchain.mono (List.subset_cons_self root rest)⟩
  · rintro ⟨chain, h⟩
    induction h with
    | root h => exact mem_walkAll.2 ⟨_, h, .inl rfl⟩
    | under h _ ih => exact mem_walkAll.2 ⟨_, h, .inr ih⟩

/-- What holds of every node with whatever is below it holds of all nodes of the trees. -/
theorem of_mem_buildResources {ctx : BuildContext} {P : Resource → Prop}
    (hnode : ∀ path parameters uri entries node below,
      buildNode ctx path parameters uri entries = .ok node → P { node with resources := below })
    {depth : Nat} {path : String} {parameters : List Parameter} {entries : List (Value × Value)}
    {rs : List Resource} (h : buildResources ctx depth path parameters entries = .ok rs) :
    ∀ r ∈ walkAll rs, P r := by
  intro r hr
  obtain ⟨chain, hchain⟩ := mem_walkAll_iff_chainTo.1 hr
  clear hr
  induction hchain generalizing depth path parameters entries with
  | root hroot =>
    obtain ⟨_, _, _, below, _, hbuilt, -, rfl⟩ := exists_node_of_mem_buildResources h hroot
    exact hnode _ _ _ _ _ below hbuilt
  | under hroot _ ih =>
    obtain ⟨_, _, _, _, _, -, hbelow, rfl⟩ := exists_node_of_mem_buildResources h hroot
    exact ih hbelow

/-! ### Verbs -/

/-- A key declares an operation if it is a text among the verbs. -/
theorem verb?_eq_some_iff {key : Value} {s : String} : verb? key = some s ↔
    key = .text s ∧ s ∈ verbs := by
  cases key with
  | text t =>
    rw [verb?, Option.ite_none_right_eq_some, Value.text.injEq, and_comm, Option.some_inj]
    exact and_congr_right fun heq => by rw [heq]
  | _ => exact ⟨nofun, by rintro ⟨⟨⟩, -⟩⟩

/-- The verb of an operation is among the verbs. -/
theorem mem_verbs_of_verb? {key : Value} {verb : String} (h : verb? key = some verb) :
    verb ∈ verbs :=
  (verb?_eq_some_iff.1 h).2

/-- The operations of a built model have the verbs that there are. -/
theorem mem_verbs_of_buildModel {entries : List (Value × Value)} {api : Model}
    (h : buildModel entries = .ok api) : ∀ o ∈ api.operations, o.2.verb ∈ verbs := by
  intro o ho
  obtain ⟨r, hr, ho⟩ := List.mem_flatMap.1 ho
  obtain ⟨m, hm, rfl⟩ := List.mem_map.1 ho
  refine of_mem_buildResources (P := fun r => ∀ m ∈ r.methods, m.verb ∈ verbs) ?_
    (modelBuilt_of_buildModel h).resources r hr m hm
  intro path parameters uri entries node below hnode m hm
  obtain ⟨_, verb, _, _, -, hverb, hmethod⟩ := (nodeBuilt_of_buildNode hnode).exists_entry hm
  obtain ⟨_, -, hbuilt⟩ := methodBuilt_of_buildMethod hmethod
  rw [hbuilt.verb_eq]
  exact mem_verbs_of_verb? hverb

end RamlClient.Api
