import RamlClient.Proofs.ResourceTree
/-!
# References to traits

A section `is` of a resource or an operation refers to traits. A reference is looked up by its text,
and a trait is declared under a key that stays as it is. So a reference finds what is declared under
its text as a key, and a key that is no text is never found, not even by a reference that is equal
to it.

What a document says besides can be built or not whatever the references are; `BuildsBesides` says
that it can. The model of such a document then depends on its references alone:
`traitReferences_resolve`. The first one that is not declared, in the order of the document, ends
the building with its name.
-/

namespace RamlClient.Api

/-! ### Declarations and references -/

/-- The declaration that a reference finds, with the text of the reference. -/
def declaration? (declared : List (Value × Value)) (ref : Value) : Option (String × Value) :=
  ref.toText.toOption.bind fun name => (Value.entryAt? declared name).map (name, ·)

/-- The first of some references that finds no declaration. -/
def firstUndeclared? (declared : List (Value × Value)) (refs : List Value) : Option Value :=
  refs.find? fun ref => (declaration? declared ref).isNone

/-- The entries of the section that an item has, if it is a section. -/
def innerEntries (item : String × Value) : List (Value × Value) :=
  (sectionEntries item.1 item.2).toOption.getD []

/-- The operations that some entries declare, by their verbs. -/
def operationEntries (entries : List (Value × Value)) : List (String × Value) :=
  entries.filterMap fun e => (verb? e.1).map (·, e.2)

/-- The references of a resource and of its operations. -/
def ownReferences (entries : List (Value × Value)) : List Value :=
  traitMentions (facet entries "is") ++
    (operationEntries entries).flatMap fun item => traitMentions (facet (innerEntries item) "is")

/-- The references of the resources among some entries and of those below them. -/
def referencesWithin : Nat → List (Value × Value) → List Value
  | 0, _ => []
  | depth + 1, entries => (resourceEntries entries).flatMap fun item =>
    ownReferences (innerEntries item) ++ referencesWithin depth (innerEntries item)
termination_by structural depth => depth

/-- The references of a document, in the order in which they are looked up. -/
def references (entries : List (Value × Value)) : List Value :=
  referencesWithin (resourceDepth entries) entries

/-- A level of a document or one of its operations has a reference. -/
def Refers (entries : List (Value × Value)) (ref : Value) : Prop :=
  ∃ place way level, StandsAt entries place way ∧ way.getLast? = some level ∧
    ref ∈ ownReferences level.entries

/-! ### What else has to be built -/

/-- A part of a model is built. -/
def Building.Succeeds {α : Type} (x : Building α) : Prop := ∃ a, x = .ok a

/-- All sections of an operation but its references can be built. -/
structure OperationBuilds (mediaType : String) (item : String × Value) : Prop where
  /-- It has a section of its own. -/
  isSection : (sectionEntries item.1 item.2).Succeeds
  /-- Its name has a text. -/
  displayName : (textIfGiven (facet (innerEntries item) "displayName")).Succeeds
  /-- Its query parameters have types. -/
  queryParameters : (buildParameters (facet (innerEntries item) "queryParameters")).Succeeds
  /-- Its bodies have types. -/
  bodies : (buildBodies mediaType (facet (innerEntries item) "body")).Succeeds
  /-- Its responses have codes, and their bodies have types. -/
  responses : (buildResponses mediaType (facet (innerEntries item) "responses")).Succeeds

/-- The resources among some entries and those below them can be built, but for their references. -/
def ResourcesBuild (mediaType : String) : Nat → List (Value × Value) → Prop
  | 0, _ => False
  | depth + 1, entries =>
    ∀ item ∈ resourceEntries entries, (sectionEntries item.1 item.2).Succeeds ∧
    (buildParameters (facet (innerEntries item) "uriParameters")).Succeeds ∧
    (∀ operation ∈ operationEntries (innerEntries item), OperationBuilds mediaType operation) ∧
    ResourcesBuild mediaType depth (innerEntries item)
termination_by structural depth => depth

/-- All of a document but its references can be built. -/
structure BuildsBesides (entries : List (Value × Value)) (mediaType : String)
    (declared : List (Value × Value)) :
    Prop where
  /-- The default content type. -/
  mediaType_eq : buildMediaType entries = .ok mediaType
  /-- The declared types can be built. -/
  types : ∃ typeEntries, sectionEntries "types" (typesSection entries) = .ok typeEntries ∧
    (typeEntries.mapM buildType).Succeeds
  /-- The entries of the section of traits. -/
  declared_eq : sectionEntries "traits" (facet entries "traits") = .ok declared
  /-- They can be built. -/
  traits : (declared.mapM (buildTrait mediaType)).Succeeds
  /-- The title has a text. -/
  title : (textFacet entries "title").Succeeds
  /-- The version has a text. -/
  version : (textFacet entries "version").Succeeds
  /-- The base address has a text. -/
  baseUri : (textFacet entries "baseUri").Succeeds
  /-- The resources can be built but for their references. -/
  resources : ResourcesBuild mediaType (resourceDepth entries) entries

/-- A trait is built from the declaration that a reference finds. -/
def DeclaredFor (mediaType : String) (declared : List (Value × Value)) (ref : Value) (t : Trait) :
    Prop :=
  ∃ name value, declaration? declared ref = some (name, value) ∧
    buildTrait mediaType (.text name, value) = .ok t

/-- The traits of an operation are those that its resource refers to and then those that it refers
to itself, one for each reference, and what they declare follows what the operation declares. -/
def ResolvesFor (mediaType : String) (declared : List (Value × Value)) (shared : List Value)
    (item : String × Value) (m : Method) : Prop :=
  ∃ entries parameters bodies, sectionEntries item.1 item.2 = .ok entries ∧
    buildParameters (facet entries "queryParameters") = .ok parameters ∧
    buildBodies mediaType (facet entries "body") = .ok bodies ∧
    List.Forall₂ (DeclaredFor mediaType declared)
      (shared ++ traitMentions (facet entries "is")) m.traits ∧
    m.allQueryParameters = parameters ++ m.traits.flatMap (·.queryParameters) ∧
    m.allBodies = bodies ++ m.traits.flatMap (·.bodies)

/-- The references of all operations of a resource are resolved. -/
def ResolvesOn (mediaType : String) (declared : List (Value × Value)) (way : List Level)
    (r : Resource) : Prop :=
  ∃ level places items, way.getLast? = some level ∧
    InOrder (OperationAt level.entries) places items ∧
    List.Forall₂ (ResolvesFor mediaType declared (traitMentions (facet level.entries "is")))
      items r.methods

/-! ### References at places -/

/-- The inner entries of an item are those of its section, if it is one. -/
theorem innerEntries_eq {item : String × Value} {entries : List (Value × Value)}
    (h : sectionEntries item.1 item.2 = .ok entries) : innerEntries item = entries := by
  rw [innerEntries, h]
  rfl

/-- A section that can be read has the inner entries of the item. -/
theorem sectionEntries_of_succeeds {item : String × Value}
    (h : (sectionEntries item.1 item.2).Succeeds) :
    sectionEntries item.1 item.2 = .ok (innerEntries item) := by
  obtain ⟨entries, hentries⟩ := h
  rw [hentries, innerEntries_eq hentries]

/-- The entries for resources are those with a text as key that begins with a slash. -/
theorem mem_resourceEntries_iff {entries : List (Value × Value)} {item : String × Value} :
    item ∈ resourceEntries entries ↔
      ∃ i : Nat, entries[i]? = some (Value.text item.1, item.2) ∧
        Text.startsWith item.1 "/" = true := by
  obtain ⟨places, h⟩ := inOrder_keyed relativeUri?_eq_some_iff entries
  constructor
  · intro hmem
    obtain ⟨i, -, hi⟩ := exists_mem_of_forall₂ h.stands hmem
    exact ⟨i, hi⟩
  · rintro ⟨i, hentry, hslash⟩
    refine List.mem_filterMap.2 ⟨_, List.mem_of_getElem? hentry, ?_⟩
    rw [relativeUri?_eq_some_iff.2 ⟨rfl, hslash⟩]
    rfl

/-- The references of resources that can be built are those of the levels at all places. -/
theorem mem_referencesWithin_iff {mediaType : String} {depth : Nat} {entries : List (Value × Value)}
    (h : ResourcesBuild mediaType depth entries) {ref : Value} :
    ref ∈ referencesWithin depth entries ↔ Refers entries ref := by
  induction depth generalizing entries with
  | zero => exact h.elim
  | succ depth ih =>
    rw [referencesWithin, List.mem_flatMap]
    constructor
    · rintro ⟨item, hitem, href⟩
      obtain ⟨i, hentry, hslash⟩ := mem_resourceEntries_iff.1 hitem
      obtain ⟨hsection, -, -, hbelow⟩ := h item hitem
      have hlevel : LevelAt entries i ⟨item.1, innerEntries item⟩ :=
        ⟨item.2, hentry, hslash, sectionEntries_of_succeeds hsection⟩
      rcases List.mem_append.1 href with hown | href
      · exact ⟨_, _, _, .last hlevel, rfl, hown⟩
      · obtain ⟨place, way, level, hway, hlast, hown⟩ := (ih hbelow).1 href
        exact ⟨_, _, level, .inside hlevel hway, by simp [List.getLast?_cons, hlast], hown⟩
    · rintro ⟨_, _, last, hstands, hlast, hown⟩
      cases hstands with
      | @last _ i level hlevel =>
        obtain rfl := Option.some.inj hlast
        obtain ⟨value, hentry, hslash, hinner⟩ := hlevel
        refine ⟨(level.uri, value), mem_resourceEntries_iff.2 ⟨i, hentry, hslash⟩,
          List.mem_append_left _ ?_⟩
        rwa [innerEntries_eq hinner]
      | @inside _ i level place way hlevel hway =>
        obtain ⟨value, hentry, hslash, hinner⟩ := hlevel
        have hitem : (level.uri, value) ∈ resourceEntries entries :=
          mem_resourceEntries_iff.2 ⟨i, hentry, hslash⟩
        refine ⟨(level.uri, value), hitem, List.mem_append_right _ ((ih (h _ hitem).2.2.2).2 ?_)⟩
        rw [innerEntries_eq hinner]
        rw [List.getLast?_cons_of_ne_nil hway.way_ne_nil] at hlast
        exact ⟨place, way, last, hway, hlast, hown⟩

/-- The references of a document are collected from its resources and operations. -/
theorem mem_references_iff {entries declared : List (Value × Value)} {mediaType : String}
    (h : BuildsBesides entries mediaType declared) {ref : Value} : ref ∈ references entries ↔
    Refers entries ref :=
  mem_referencesWithin_iff h.resources

/-! ### Looking up -/

/-- A trait keeps the key of its declaration. -/
theorem key_of_buildTrait {mediaType : String} {e : Value × Value} {t : Trait}
    (h : buildTrait mediaType e = .ok t) : t.key = e.1 := by
  simp only [buildTrait, Building.bind_eq_ok] at h
  obtain ⟨_, -, _, -, _, -, _, -, h⟩ := h
  cases h
  rfl

/-- A trait is found where its declaration is. -/
theorem find?_of_forall₂ {mediaType : String} {declared : List (Value × Value)}
    {traits : List Trait}
    (h : List.Forall₂ (fun e t => buildTrait mediaType e = .ok t) declared traits) (name : String) :
    Value.entryAt? declared name = none ∧
      traits.find? (fun t => t.key.sameKey (.text name)) = none ∨
      ∃ value t, Value.entryAt? declared name = some value ∧
        traits.find? (fun t => t.key.sameKey (.text name)) = some t ∧
        buildTrait mediaType (.text name, value) = .ok t := by
  induction h with
  | nil => exact .inl ⟨rfl, rfl⟩
  | @cons e t declared traits ht _ ih =>
    cases hkey : e.1.sameKey (.text name) with
    | true =>
      obtain ⟨key, value⟩ := e
      obtain rfl := Value.sameKey_text_iff.1 hkey
      exact .inr ⟨value, t, by
        simp [Value.entryAt?, hkey], by simp [key_of_buildTrait ht, hkey], ht⟩
    | false => simpa [Value.entryAt?, key_of_buildTrait ht, hkey] using ih

/-- How building ends at a reference that finds no declaration. -/
def failureOf (ref : Value) : Failure :=
  match ref.toText with
  | .ok name => .error (.model (.unknownTrait name))
  | .error d => .defect d

/-- A reference is reported as unknown under its text. -/
theorem failureOf_eq_unknownTrait_iff {ref : Value} {name : String} :
    failureOf ref = .error (.model (.unknownTrait name)) ↔ ref.toText = .ok name := by
  unfold failureOf
  split <;> rename_i h <;> simp [h]

/-- A reference that finds no declaration is a failure, and one that finds a declaration is the
trait that is built from it. -/
theorem findTrait_eq {mediaType : String} {declared : List (Value × Value)} {traits : List Trait}
    (h : declared.mapM (buildTrait mediaType) = .ok traits) (ref : Value) :
    declaration? declared ref = none ∧ findTrait traits ref = .error (failureOf ref) ∨
      ∃ name value t, declaration? declared ref = some (name, value) ∧
      findTrait traits ref = .ok t ∧
        buildTrait mediaType (.text name, value) = .ok t := by
  cases htext : ref.toText with
  | error d =>
    refine .inl ⟨by simp [declaration?, htext, Except.toOption], ?_⟩
    rw [findTrait, textOf, failureOf, htext]
    rfl
  | ok name =>
    have hread : textOf ref = .ok name := by
      rw [textOf, htext]
      rfl
    rcases find?_of_forall₂ (Building.forall₂_of_mapM h) name with ⟨hnone, hmissing⟩ | ⟨value, t,
      hsome, hfound, ht⟩
    · refine .inl ⟨by simp [declaration?, htext, Except.toOption, hnone], ?_⟩
      rw [failureOf, htext]
      simp only [findTrait, hread, bind, Except.bind, hmissing]
      rfl
    · refine .inr ⟨name, value, t, by simp [declaration?, htext, Except.toOption, hsome], ?_, ht⟩
      simp only [findTrait, hread, bind, Except.bind, hfound]
      rfl

/-! ### Steps that depend on references -/

/-- Whether a step succeeds depends on some references: it does if all of them are declared, and
otherwise it ends with the failure of the first one that is not. -/
inductive Hinges (declared : List (Value × Value)) (refs : List Value) {α : Type} (x : Building α) :
    Prop where
  /-- All references are declared. -/
  | succeeds (hrefs : firstUndeclared? declared refs = none) (hx : x.Succeeds)
  /-- A reference is not declared. -/
  | fails {ref : Value} (hrefs : firstUndeclared? declared refs = some ref)
      (hx : x = .error (failureOf ref))

namespace Hinges

variable {declared : List (Value × Value)} {refs more : List Value} {α β : Type}

/-- What succeeds hinges on no references. -/
theorem of_ok {x : Building α} {a : α} (h : x = .ok a) : Hinges declared [] x :=
  .succeeds rfl ⟨a, h⟩

/-- A row of two steps depends on the references of the first one and then on those of the second
one. -/
theorem bind {x : Building α} {f : α → Building β} (hx : Hinges declared refs x)
    (hf : ∀ a, Hinges declared more (f a)) : Hinges declared (refs ++ more) (x >>= f) := by
  have hfirst : firstUndeclared? declared (refs ++ more) =
      (firstUndeclared? declared refs).or (firstUndeclared? declared more) := List.find?_append
  rcases hx with ⟨hrefs, a, rfl⟩ | ⟨hrefs, rfl⟩ <;> rw [hrefs] at hfirst
  · rcases hf a with ⟨hmore, hfa⟩ | ⟨hmore, hfa⟩
    · exact .succeeds (hfirst.trans hmore) hfa
    · exact .fails (hfirst.trans hmore) hfa
  · exact .fails hfirst rfl

/-- What hinges on declared references succeeds. -/
theorem succeeds_of_none {x : Building α} (hx : Hinges declared refs x)
    (hrefs : firstUndeclared? declared refs = none) : x.Succeeds := by
  rcases hx with ⟨-, hx⟩ | ⟨hsome, -⟩
  · exact hx
  · cases hrefs.symm.trans hsome

/-- What hinges on references fails with the first one that is not declared. -/
theorem eq_error {x : Building α} {ref : Value} (hx : Hinges declared refs x)
    (hrefs : firstUndeclared? declared refs = some ref) : x = .error (failureOf ref) := by
  rcases hx with ⟨hnone, -⟩ | ⟨hsome, hx⟩
  · cases hrefs.symm.trans hnone
  · cases hrefs.symm.trans hsome
    exact hx

/-- A step that succeeds is passed over. -/
theorem given {x : Building α} {a : α} {f : α → Building β} (hx : x = .ok a)
    (hf : Hinges declared refs (f a)) :
    Hinges declared refs (x >>= f) := hx ▸ hf

/-- What follows a success hinges on the same references. -/
theorem after {x : Building α} {f : α → Building β} (hx : x.Succeeds)
    (hf : ∀ a, Hinges declared refs (f a)) :
    Hinges declared refs (x >>= f) := by
  obtain ⟨a, ha⟩ := hx
  exact .given ha (hf a)

/-- A result that is changed afterwards hinges on the same references. -/
theorem map {x : Building α} (hx : Hinges declared refs x) (g : α → β) :
    Hinges declared refs (x >>= fun a => pure (g a)) := by
  have h : Hinges declared (refs ++ []) (x >>= fun a => pure (g a)) := hx.bind fun a => .of_ok rfl
  rwa [List.append_nil] at h

/-- A row hinges on the references of its elements, one after the other. -/
theorem mapM {f : α → Building β} {as : List α} {refs : α → List Value}
    (h : ∀ a ∈ as, Hinges declared (refs a) (f a)) :
    Hinges declared (as.flatMap refs) (as.mapM f) := by
  induction as with
  | nil => exact .of_ok rfl
  | cons a rest ih =>
    obtain ⟨ha, hrest⟩ := List.forall_mem_cons.1 h
    rw [List.mapM_cons, List.flatMap_cons]
    exact ha.bind fun b => (ih hrest).map _

end Hinges

section

variable {mediaType : String} {declared : List (Value × Value)} {traits : List Trait}

/-- The search for a trait hinges on the reference to it. -/
theorem hinges_findTrait (h : declared.mapM (buildTrait mediaType) = .ok traits) (ref : Value) :
    Hinges declared [ref] (findTrait traits ref) := by
  rcases findTrait_eq h ref with ⟨hnone, hfind⟩ | ⟨name, value, t, hsome, hfind, -⟩
  · exact .fails (by simp [firstUndeclared?, hnone]) hfind
  · exact .succeeds (by simp [firstUndeclared?, hsome]) ⟨t, hfind⟩

/-- The traits of a section hinge on the references it mentions. -/
theorem hinges_traitRefs (h : declared.mapM (buildTrait mediaType) = .ok traits) (raw : Value) :
    Hinges declared (traitMentions raw) (traitRefs traits raw) := by
  have hrefs : Hinges declared ((traitMentions raw).flatMap fun ref => [ref])
    (traitRefs traits raw) :=
    .mapM fun ref _ => hinges_findTrait h ref
  rwa [List.flatMap_singleton'] at hrefs

/-- A method hinges on the references to its traits. -/
theorem hinges_buildMethod (h : declared.mapM (buildTrait mediaType) = .ok traits)
    (shared : List Trait) {item : String × Value} (hitem : OperationBuilds mediaType item) :
    Hinges declared (traitMentions (facet (innerEntries item) "is"))
      (buildMethod ⟨mediaType, traits⟩ shared item.1 item.2) := by
  refine .given (sectionEntries_of_succeeds hitem.isSection) ?_
  exact .after hitem.displayName fun _ => .after hitem.queryParameters fun _ =>
    .after hitem.bodies fun _ =>
    .after hitem.responses fun _ => (hinges_traitRefs h _).map _

/-- A resource without the ones below it hinges on the references in its own entries. -/
theorem hinges_buildNode (h : declared.mapM (buildTrait mediaType) = .ok traits) (path : String)
    (parameters : List Parameter) (uri : String) {entries : List (Value × Value)}
    (hparameters : (buildParameters (facet entries "uriParameters")).Succeeds)
    (hoperations : ∀ operation ∈ operationEntries entries, OperationBuilds mediaType operation) :
    Hinges declared (ownReferences entries)
      (buildNode ⟨mediaType, traits⟩ path parameters uri entries) := by
  refine .after hparameters fun _ => (hinges_traitRefs h _).bind fun shared => Hinges.map ?_ _
  exact .mapM fun operation hmem => hinges_buildMethod h shared (hoperations operation hmem)

/-- Resources hinge on all references in their entries. -/
theorem hinges_buildResources (h : declared.mapM (buildTrait mediaType) = .ok traits) {depth : Nat}
    (path : String) (parameters : List Parameter) {entries : List (Value × Value)}
    (hresources : ResourcesBuild mediaType depth entries) :
    Hinges declared (referencesWithin depth entries)
      (buildResources ⟨mediaType, traits⟩ depth path parameters entries) := by
  induction depth generalizing path parameters entries with
  | zero => exact hresources.elim
  | succ depth ih =>
    refine .mapM fun item hitem => ?_
    obtain ⟨hsection, hparameters, hoperations, hbelow⟩ := hresources item hitem
    refine .given (sectionEntries_of_succeeds hsection) ?_
    exact (hinges_buildNode h path parameters item.1 hparameters hoperations).bind fun node =>
      (ih node.path node.uriParameters hbelow).map _

/-- A model hinges on all references of its document. -/
theorem hinges_buildModel {entries : List (Value × Value)}
    (h : BuildsBesides entries mediaType declared) :
    Hinges declared (references entries) (buildModel entries) := by
  obtain ⟨typeEntries, htypeEntries, htypes⟩ := h.types
  obtain ⟨traits, htraits⟩ := h.traits
  have hsection : buildTraits mediaType (facet entries "traits") = .ok traits := by
    rw [buildTraits, h.declared_eq]
    exact htraits
  refine .given h.mediaType_eq <| .given htypeEntries <| .after htypes fun _ => .given hsection ?_
  exact .after h.title fun _ => .after h.version fun _ => .after h.baseUri fun _ =>
    (hinges_buildResources htraits "" [] h.resources).map _

/-! ### Documents that are built -/

/-- The operation of a method that is built can be built besides its references. -/
theorem operationBuilds_of_buildMethod {shared : List Trait} {item : String × Value} {m : Method}
    (h : buildMethod ⟨mediaType, traits⟩ shared item.1 item.2 = .ok m) :
    OperationBuilds mediaType item := by
  obtain ⟨entries, hentries, hbuilt⟩ := methodBuilt_of_buildMethod h
  rw [← innerEntries_eq hentries] at hbuilt
  exact ⟨⟨_, hentries⟩, ⟨_, hbuilt.displayName⟩, ⟨_, hbuilt.queryParameters⟩, ⟨_, hbuilt.bodies⟩,
    ⟨_, hbuilt.responses⟩⟩

/-- Resources that are built with some traits can be built but for their references. -/
theorem resourcesBuild_of_buildResources {depth : Nat} {path : String} {parameters : List Parameter}
    {entries : List (Value × Value)} {rs : List Resource}
    (h : buildResources ⟨mediaType, traits⟩ depth path parameters entries = .ok rs) :
    ResourcesBuild mediaType depth entries := by
  induction depth generalizing path parameters entries rs with
  | zero => cases h
  | succ depth ih =>
    intro item hitem
    obtain ⟨r, -, hr⟩ := exists_mem_of_forall₂ (Building.forall₂_of_mapM h).flip hitem
    simp only [Building.bind_eq_ok] at hr
    obtain ⟨inner, hinner, node, hnode, below, hbelow, -⟩ := hr
    have hbuilt := nodeBuilt_of_buildNode hnode
    obtain ⟨uriParameters, huriParameters, -⟩ := hbuilt.uriParameters
    obtain ⟨shared, -, hmethods⟩ := hbuilt.methods
    rw [innerEntries_eq hinner]
    refine ⟨⟨inner, hinner⟩, ⟨uriParameters, huriParameters⟩, fun operation hoperation =>
      ?_, ih hbelow⟩
    obtain ⟨m, -, hm⟩ := exists_mem_of_forall₂ (Building.forall₂_of_mapM hmethods).flip hoperation
    exact operationBuilds_of_buildMethod hm

/-- The document of a model that is built can be built besides its references. -/
theorem buildsBesides_of_buildModel {entries : List (Value × Value)} {api : Model}
    (h : buildModel entries = .ok api) :
    ∃ declared, BuildsBesides entries api.mediaType declared ∧
      declared.mapM (buildTrait api.mediaType) = .ok api.traits := by
  have hbuilt := modelBuilt_of_buildModel h
  obtain ⟨typeEntries, htypeEntries, htypes⟩ := hbuilt.types
  obtain ⟨declared, hdeclared, htraits⟩ := Building.bind_eq_ok.1 hbuilt.traits
  exact ⟨declared, ⟨hbuilt.mediaType, ⟨typeEntries, htypeEntries, _, htypes⟩, hdeclared,
    ⟨_, htraits⟩, ⟨_, hbuilt.title⟩, ⟨_, hbuilt.version⟩, ⟨_, hbuilt.baseUri⟩,
    resourcesBuild_of_buildResources hbuilt.resources⟩, htraits⟩

/-! ### The traits of operations -/

/-- The traits that are found are those of the declarations referred to, in order. -/
theorem declaredFor_of_traitRefs (h : declared.mapM (buildTrait mediaType) = .ok traits)
    {raw : Value} {found : List Trait} (hfound : traitRefs traits raw = .ok found) :
    List.Forall₂ (DeclaredFor mediaType declared) (traitMentions raw) found := by
  refine (Building.forall₂_of_mapM hfound).imp fun ref t ht => ?_
  rcases findTrait_eq h ref with ⟨-, hfind⟩ | ⟨name, value, t', hsome, hfind, hbuilt⟩
  · cases hfind.symm.trans ht
  · cases hfind.symm.trans ht
    exact ⟨name, value, hsome, hbuilt⟩

/-- The traits of a built method are those of the declarations it refers to. -/
theorem resolvesFor_of_buildMethod (h : declared.mapM (buildTrait mediaType) = .ok traits)
    {raw : Value} {shared : List Trait} (hshared : traitRefs traits raw = .ok shared)
    {item : String × Value} {m : Method}
    (hm : buildMethod ⟨mediaType, traits⟩ shared item.1 item.2 = .ok m) :
    ResolvesFor mediaType declared (traitMentions raw) item m := by
  obtain ⟨entries, hentries, hbuilt⟩ := methodBuilt_of_buildMethod hm
  obtain ⟨own, hown, htraits⟩ := hbuilt.traits
  have hdeclared : List.Forall₂ (DeclaredFor mediaType declared)
      (traitMentions raw ++ traitMentions (facet entries "is")) m.traits := by
    rw [htraits]
    exact List.rel_append (declaredFor_of_traitRefs h hshared) (declaredFor_of_traitRefs h hown)
  exact ⟨entries, m.queryParameters, m.bodies, hentries, hbuilt.queryParameters, hbuilt.bodies,
    hdeclared, rfl, rfl⟩

/-- The references on the way to a built resource are resolved. -/
theorem BuiltOn.resolvesOn (h : declared.mapM (buildTrait mediaType) = .ok traits) {path : String}
    {parameters : List Parameter} {way : List Level} {r : Resource}
    (hr : BuiltOn ⟨mediaType, traits⟩ path parameters way r) :
    ResolvesOn mediaType declared way r := by
  obtain ⟨level, _, _, node, hlast, hnode, -, hmethods⟩ := hr.exists_last
  obtain ⟨shared, places, items, hshared, hplaces, hbuilt⟩ := exists_operations hnode
  refine ⟨level, places, items, hlast, hplaces, ?_⟩
  rw [hmethods]
  exact hbuilt.imp fun _ _ => resolvesFor_of_buildMethod h hshared

end

/-! ### Which references decide -/

/-- No declaration is found for a text if no key equals it. -/
theorem declaration?_text_eq_none_iff {declared : List (Value × Value)} {s : String} :
    declaration? declared (.text s) = none ↔ ∀ e ∈ declared, e.1.sameKey (.text s) = false := by
  simp [declaration?, Value.toText, Except.toOption, Value.entryAt?]

/-- A step ends with an unknown trait exactly if the first reference that finds no declaration has
this name. -/
theorem Hinges.eq_unknownTrait_iff {declared : List (Value × Value)} {refs : List Value} {α : Type}
    {x : Building α} (hx : Hinges declared refs x) {name : String} :
    x = .error (.error (.model (.unknownTrait name))) ↔
      ∃ ref, firstUndeclared? declared refs = some ref ∧ ref.toText = .ok name := by
  rcases hx with ⟨hrefs, a, rfl⟩ | ⟨hrefs, rfl⟩
  · simp [hrefs]
  · simp [hrefs, failureOf_eq_unknownTrait_iff]

/-- Among texts, the first one without a declaration has a name, and there is one if some text is no
key. -/
theorem exists_firstUndeclared?_iff {declared : List (Value × Value)} {refs : List Value}
    (htexts : ∀ ref ∈ refs, ∃ s, ref = .text s) :
    (∃ name ref, firstUndeclared? declared refs = some ref ∧ ref.toText = .ok name) ↔
      ∃ ref ∈ refs, ∀ e ∈ declared, e.1.sameKey ref = false := by
  constructor
  · rintro ⟨name, ref, hfirst, -⟩
    have hmem := List.mem_of_find?_eq_some hfirst
    obtain ⟨s, rfl⟩ := htexts ref hmem
    exact ⟨_, hmem, declaration?_text_eq_none_iff.1 (by simpa using List.find?_some hfirst)⟩
  · rintro ⟨ref, hmem, hapart⟩
    obtain ⟨s, rfl⟩ := htexts ref hmem
    have hsome : (firstUndeclared? declared refs).isSome := by
      rw [firstUndeclared?, List.find?_isSome]
      exact ⟨_, hmem, by simpa using declaration?_text_eq_none_iff.2 hapart⟩
    obtain ⟨first, hfirst⟩ := Option.isSome_iff_exists.1 hsome
    obtain ⟨t, rfl⟩ := htexts first (List.mem_of_find?_eq_some hfirst)
    exact ⟨t, _, hfirst, rfl⟩

/-- In a model that is built, every reference of every operation is resolved. -/
theorem exists_resolved {entries declared : List (Value × Value)} {mediaType : String}
    (h : BuildsBesides entries mediaType declared) {api : Model}
    (hapi : buildModel entries = .ok api) :
    ∃ places ways, InOrder (StandsAt entries) places ways ∧
      List.Forall₂ (ResolvesOn mediaType declared) ways api.walkResources := by
  obtain ⟨places, ways, hways, hbuilt⟩ := exists_ways_of_buildModel hapi
  obtain ⟨declared', h', htraits⟩ := buildsBesides_of_buildModel hapi
  obtain rfl : declared = declared' := Except.ok.inj (h.declared_eq.symm.trans h'.declared_eq)
  obtain rfl : mediaType = api.mediaType :=
    Except.ok.inj (h.mediaType_eq.symm.trans h'.mediaType_eq)
  exact ⟨places, ways, hways, hbuilt.imp fun _ _ hb => hb.resolvesOn htraits⟩

/-- Building a model ends with an unknown trait exactly if the first reference that finds no
declaration has this name. If all references are texts, it does so if some reference is equal to no
key of the declared traits. If all references find a declaration, the model is built, and its
operations have the traits that are referred to. -/
theorem traitReferences_resolve {entries declared : List (Value × Value)} {mediaType : String}
    (h : BuildsBesides entries mediaType declared) :
    (∀ name, buildModel entries = .error (.error (.model (.unknownTrait name))) ↔
      ∃ ref, firstUndeclared? declared (references entries) = some ref ∧ ref.toText = .ok name) ∧
    ((∀ ref, Refers entries ref → ∃ s, ref = .text s) →
      ((∃ name, buildModel entries = .error (.error (.model (.unknownTrait name)))) ↔
        ∃ ref, Refers entries ref ∧ ∀ e ∈ declared, e.1.sameKey ref = false)) ∧
    ((∀ ref, Refers entries ref → (declaration? declared ref).isSome) →
      ∃ api, buildModel entries = .ok api ∧ ∃ places ways, InOrder (StandsAt entries) places ways ∧
        List.Forall₂ (ResolvesOn mediaType declared) ways api.walkResources) := by
  have hhinges := hinges_buildModel h
  simp only [← mem_references_iff h]
  refine ⟨fun name => hhinges.eq_unknownTrait_iff, fun htexts => ?_, fun hall => ?_⟩
  · simp only [hhinges.eq_unknownTrait_iff]
    exact exists_firstUndeclared?_iff htexts
  · have hnone : firstUndeclared? declared (references entries) = none := by
      simpa [firstUndeclared?, Option.isSome_iff_ne_none] using hall
    obtain ⟨api, hapi⟩ := hhinges.succeeds_of_none hnone
    exact ⟨api, hapi, exists_resolved h hapi⟩

/-- A document whose operation has traits from its resource and of its own. -/
def sortedDocument : List (Value × Value) :=
  [(.text "traits", .mapping
    [(.text "paged",
      .mapping [(.text "queryParameters", .mapping [(.text "page", .text "integer")])]),
     (.text "sorted", .mapping [(.text "queryParameters", .mapping [(.text "by", .null)])])]),
   (.text "/items", .mapping
    [(.text "get", .mapping
      [(.text "queryParameters", .mapping [(.text "filter", .null)]),
       (.text "is", .list [.mapping [(.text "sorted", .mapping [])], .text "paged"])]),
     (.text "is", .text "paged")])]

/-- The operation has the traits of its resource before its own. -/
theorem traitReferences_resolve_sorted : ∃ api declared,
    buildModel sortedDocument = .ok api ∧ BuildsBesides sortedDocument api.mediaType declared ∧
    references sortedDocument = [.text "paged", .text "sorted", .text "paged"] ∧
    api.operations.map (fun o => o.2.allQueryParameters.map (·.name)) =
      [["filter", "page", "by", "page"]] ∧
    ∃ places ways, InOrder (StandsAt sortedDocument) places ways ∧
      List.Forall₂ (ResolvesOn api.mediaType declared) ways api.walkResources := by
  have hbuilt : ∃ api, buildModel sortedDocument = .ok api := ⟨_, rfl⟩
  obtain ⟨api, hapi⟩ := hbuilt
  obtain ⟨declared, hbesides, -⟩ := buildsBesides_of_buildModel hapi
  have hrefs : references sortedDocument = [.text "paged", .text "sorted", .text "paged"] := rfl
  obtain ⟨-, -, hresolves⟩ := traitReferences_resolve hbesides
  have hall : ∀ ref, Refers sortedDocument ref → (declaration? declared ref).isSome := by
    simp only [← mem_references_iff hbesides]
    cases hbesides.declared_eq
    rw [hrefs]
    decide
  obtain ⟨api', hapi', places, ways, hways, hresolved⟩ := hresolves hall
  cases hapi.symm.trans hapi'
  refine ⟨api, declared, hapi, hbesides, hrefs, ?_, places, ways, hways, hresolved⟩
  cases hapi
  rfl

/-- A document with a trait whose key is a number. -/
def numberedDocument : List (Value × Value) :=
  [(.text "title", .text "T"), (.text "traits", .mapping [(.int 1, .mapping [])]),
   (.text "/items", .mapping [(.text "is", .list [.int 1]), (.text "get", .mapping [])])]

/-- The text of the number one. -/
theorem toText_one : (Value.int 1).toText = .ok "1" := by
  have hshort : Int.natAbs 1 < Value.overlong := by decide +kernel
  rw [Value.toText, Value.shown, Value.shownWithin, Value.digitsOf, if_pos hshort]
  · rfl
  all_goals nofun

/-- The document with a number as a trait's key can be built besides its references. -/
theorem buildsBesides_numberedDocument :
    BuildsBesides numberedDocument defaultMediaType [(.int 1, .mapping [])] where
  mediaType_eq := rfl
  types := ⟨[], rfl, [], rfl⟩
  declared_eq := rfl
  traits := by
    refine ⟨[⟨.int 1, [], []⟩], ?_⟩
    simp only [List.mapM_cons, List.mapM_nil, buildTrait, textOf, toText_one]
    rfl
  title := ⟨_, rfl⟩
  version := ⟨_, rfl⟩
  baseUri := ⟨_, rfl⟩
  resources := by
    intro item hitem
    obtain rfl := List.mem_singleton.1 hitem
    refine ⟨⟨_, rfl⟩, ⟨_, rfl⟩, fun operation hoperation => ?_, nofun⟩
    obtain rfl := List.mem_singleton.1 hoperation
    exact ⟨⟨_, rfl⟩, ⟨_, rfl⟩, ⟨_, rfl⟩, ⟨_, rfl⟩, ⟨_, rfl⟩⟩

/-- The trait is unknown although the reference is equal to its key. -/
theorem not_unknownTrait_iff_numbered : ∃ declared,
    BuildsBesides numberedDocument defaultMediaType declared ∧
    ¬((∃ name, buildModel numberedDocument = .error (.error (.model (.unknownTrait name)))) ↔
      ∃ ref, Refers numberedDocument ref ∧ ∀ e ∈ declared, e.1.sameKey ref = false) := by
  refine ⟨_, buildsBesides_numberedDocument, fun hiff => ?_⟩
  have hrefs : references numberedDocument = [.int 1] := rfl
  have hfirst : firstUndeclared? [(.int 1, .mapping [])] (references numberedDocument) =
    some (.int 1) := by
    simp [hrefs, firstUndeclared?, declaration?, Value.entryAt?, Value.sameKey, Value.wholeNumber?]
  have hbuilt := (hinges_buildModel buildsBesides_numberedDocument).eq_error hfirst
  rw [failureOf_eq_unknownTrait_iff.2 toText_one] at hbuilt
  obtain ⟨ref, hmem, hapart⟩ := hiff.1 ⟨"1", hbuilt⟩
  rw [← mem_references_iff buildsBesides_numberedDocument, hrefs, List.mem_singleton] at hmem
  subst hmem
  exact absurd (hapart _ List.mem_cons_self) (by decide)

end RamlClient.Api
