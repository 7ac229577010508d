import RamlClient.Proofs.ClientDraft
import RamlClient.Proofs.Lineage
import RamlClient.Proofs.TypeTexts
/-!
# The types of a client

All types that a client refers to by name are those of the API or structs of its operations, and
their names are identifiers. So whether a body stands for itself does not depend on the package it
is drafted into: `bodyStands` tells it by the API alone.
-/

namespace RamlClient.Client

open Api Go

/-! ### Type texts of structs -/

/-- The type texts of the struct for a declaration. -/
theorem typeTexts_structFor (api : Model) (name : String) (t : TypeDeclaration) :
    typeTexts (.struct (structFor api name t)) = (structProperties api t).map fun a =>
      typeText a.type := by
  simp [typeTexts, structFor, propertyField]

/-- The type texts of the struct for a payload. -/
theorem typeTexts_payloadStruct (api : Model) (name : String) (body : Body) :
    typeTexts (.struct (payloadStruct api name body)) =
      (structProperties api (payloadDeclaration api (name ++ "Payload") body)).map
        fun a => typeText a.type :=
  typeTexts_structFor api (name ++ "Payload") _

/-- The type texts of the struct for query parameters. -/
theorem typeTexts_paramsStruct (name : String) (parameters : List Parameter) :
    typeTexts (.struct (paramsStruct name parameters)) = parameters.map fun a =>
      typeText a.type := by
  simp [typeTexts, paramsStruct, queryField]

/-! ### Kinds of an API -/

/-- The descriptors of a body. -/
def bodyDescriptors (b : Body) : List TypeDescriptor := b.type :: b.properties.map (·.type)

/-- The descriptors of an operation. -/
def operationDescriptors (o : Resource × Method) : List TypeDescriptor :=
  o.1.uriParameters.map (·.type) ++ o.2.allQueryParameters.map (·.type) ++
    o.2.allBodies.flatMap bodyDescriptors ++ o.2.responses.flatMap fun r =>
      r.bodies.flatMap bodyDescriptors

/-- The descriptors of declarations, properties, parameters and bodies. -/
def descriptors (api : Model) : List TypeDescriptor :=
  (api.types.flatMap fun t => t.descriptor :: t.properties.map (·.type)) ++
    api.operations.flatMap operationDescriptors

/-- Whether the innermost kind of a descriptor is built in or declared. -/
def hasKnownKind (api : Model) (d : TypeDescriptor) : Bool :=
  (leafKind d).all fun kind => builtinKinds.contains kind || (api.findType? kind).isSome

/-- All kinds outside unions are built in or declared. -/
def KindsKnown (api : Model) : Prop := ∀ d ∈ descriptors api, hasKnownKind api d = true

instance (api : Model) : Decidable (KindsKnown api) :=
  inferInstanceAs (Decidable (∀ d ∈ descriptors api, hasKnownKind api d = true))

/-! ### Bodies that stand for themselves -/

/-- Whether the Go type of a body stands for it, told by the API alone. -/
def bodyStands (api : Model) (body : Body) : Except Error Bool :=
  let d := body.type
  if !body.properties.isEmpty then .ok false
  else if d.isArray || d.isUnion then .ok true
  else if d.required && (scalarType? d.kind).isNone && (api.findType? d.kind).isSome then .ok true
  else if d.kind ∈ builtinKinds && d.kind != "object" then .ok true
  else match api.findType? d.kind with
    | none => .ok false
    | some declaration => (isObjectType api declaration).map (!·)

/-- The types of the package are those of the API and others with identifiers as names. -/
structure HoldsTypes (api : Model) (p : Package) : Prop where
  /-- Every declared type has its type. -/
  declared : ∀ t ∈ api.types, refersToType p (exportedName t.name) = true
  /-- The names of types are identifiers. -/
  alphanumeric : ∀ n, refersToType p n = true → Alphanumeric n.toList

/-- The kinds of scalars are built in. -/
theorem mem_builtinKinds_of_scalarType? {kind type : String} (h : scalarType? kind = some type) :
    kind ∈ builtinKinds := by
  have hall : ∀ s ∈ scalarTypes, s.1 ∈ builtinKinds := by decide +kernel
  obtain ⟨s, hs, -⟩ := Option.map_eq_some_iff.1 h
  have hkind : s.1 = kind := by simpa using List.find?_some hs
  exact hkind ▸ hall s (List.mem_of_find?_eq_some hs)

/-- What is neither an array nor a union is of its own kind. -/
theorem leafKind_of_single {d : TypeDescriptor} (h : (d.isArray || d.isUnion) = false) :
    leafKind d = some d.kind ∧ presentType d = kindType d.kind := by
  obtain ⟨kind, required, items, members⟩ := d
  simp only [Bool.or_eq_false_iff, TypeDescriptor.isArray, TypeDescriptor.isUnion,
    Option.isSome_eq_false_iff, Option.isNone_iff_eq_none, decide_eq_false_iff_not] at h
  obtain ⟨rfl, hmembers⟩ := h
  simp [leafKind, presentType, hmembers]

/-- Every declared type of the API has its type in the package, and what is no name refers to none:
the texts of optional types and of objects. -/
structure FindsTypes (api : Model) (p : Package) : Prop where
  /-- Every declared type has its type. -/
  declared : ∀ t ∈ api.types, refersToType p (exportedName t.name) = true
  /-- The text of an optional type is the name of none. -/
  optional : ∀ s, refersToType p ("*" ++ s) = false
  /-- The text of objects is the name of none. -/
  object : refersToType p (kindType "object") = false

/-- A package that holds the types of an API finds them. -/
theorem HoldsTypes.findsTypes {api : Model} {p : Package} (h : HoldsTypes api p) :
    FindsTypes api p where
  declared := h.declared
  optional := fun s => by
    apply Bool.eq_false_iff.2
    intro hrefers
    have halpha := h.alphanumeric _ hrefers
    rw [String.toList_append] at halpha
    have hstar : '*'.isAlphanum = true := halpha '*' (List.mem_append_left _ (by decide))
    exact absurd hstar (by decide)
  object := by
    apply Bool.eq_false_iff.2
    intro hrefers
    have hnot : ¬Alphanumeric (kindType "object").toList := by decide +kernel
    exact hnot (h.alphanumeric _ hrefers)

/-- What refers to a type by the text of a descriptor is required and no object. -/
theorem required_of_refersToType {api : Model} {p : Package} (hp : FindsTypes api p)
    {d : TypeDescriptor} (hpresent : presentType d = kindType d.kind)
    (h : refersToType p (typeText d) = true) : d.required = true ∧ d.kind ≠ "object" := by
  have hrequired : d.required = true := by
    by_contra hoptional
    rw [typeText, if_neg hoptional, hp.optional] at h
    cases h
  refine ⟨hrequired, ?_⟩
  intro hobject
  rw [typeText, if_pos hrequired, hpresent, hobject, hp.object] at h
  cases h

/-- In a package with the types of an API, a body stands for itself if the API says so. -/
theorem standsForItself_eq {api : Model} {p : Package} (hp : FindsTypes api p) {body : Body}
    (hknown : (body.type.isArray || body.type.isUnion) = false →
      body.type.kind ∈ builtinKinds ∨ (api.findType? body.type.kind).isSome = true) :
    standsForItself p api body = bodyStands api body := by
  unfold standsForItself bodyStands
  simp only
  split
  · rfl
  split
  · rfl
  rename_i hsingle
  have hknown := hknown (by simpa using hsingle)
  have hpresent := (leafKind_of_single (by simpa using hsingle)).2
  by_cases hrefers : refersToType p (typeText body.type) = true
  · obtain ⟨hrequired, hobject⟩ := required_of_refersToType hp hpresent hrefers
    rw [if_pos hrefers]
    cases hscalar : scalarType? body.type.kind with
    | some type => simp [hobject, mem_builtinKinds_of_scalarType? hscalar]
    | none =>
      by_cases hdeclared : (api.findType? body.type.kind).isSome = true
      · simp [hrequired, hdeclared]
      · simp [hobject, hknown.resolve_right hdeclared]
  · have hundeclared : ¬(body.type.required && (scalarType? body.type.kind).isNone &&
        (api.findType? body.type.kind).isSome) = true := by
      simp only [Bool.and_eq_true]
      rintro ⟨⟨hrequired, hscalar⟩, hdeclared⟩
      obtain ⟨t, ht⟩ := Option.isSome_iff_exists.1 hdeclared
      apply hrefers
      rw [typeText, if_pos hrequired, hpresent, kindType, Option.isNone_iff_eq_none.1 hscalar,
        Option.getD_none, ← name_of_findType? ht]
      exact hp.declared t (mem_types_of_findType? ht)
    exact (if_neg hrefers).trans (if_neg hundeclared).symm

/-- The kind of what is neither array nor union is its innermost kind. -/
theorem known_of_hasKnownKind {api : Model} {d : TypeDescriptor} (h : hasKnownKind api d = true)
    (hsingle : (d.isArray || d.isUnion) = false) :
    d.kind ∈ builtinKinds ∨ (api.findType? d.kind).isSome = true := by
  simpa [hasKnownKind, (leafKind_of_single hsingle).1] using h

/-! ### Types of a client -/

namespace ClientStages.Begun

variable {depth : Option Int} {api : Model} {operations : List (Resource × Method)} {p : Package}
  {c : ClientStages}

/-- Every declared type has the definition of its identifier. -/
theorem exists_name (h : c.Begun depth api operations p) {t : TypeDeclaration}
    (ht : t ∈ api.types) :
    ∃ x ∈ c.models, x.kind ≠ .func ∧ x.name = exportedName t.name := by
  obtain hold | hnew := name_mem_newMembers (fun t : TypeDeclaration => exportedName t.name) [] ht
  · cases hold
  · obtain ⟨t', ht', hname⟩ := List.mem_map.1 hnew
    obtain ⟨x, hx, hmodel⟩ := h.exists_model ht'
    exact ⟨x, hx, hmodel.kind_ne, hmodel.name_eq.trans hname⟩

/-- The type of a definition in the file for the declared types is one of them. -/
theorem exists_declared (h : c.Begun depth api operations p) {x : Definition} (hx : x ∈ c.models) :
    ∃ t ∈ api.types, x.name = exportedName t.name := by
  obtain ⟨t, ht, hmodel⟩ := h.exists_type hx
  exact ⟨t, (newMembers_sublist _ _ _).subset ht, hmodel.name_eq⟩

/-- Definitions for an operation other than functions are structs with the name of the operation. -/
theorem exists_operation (h : c.Begun depth api operations p) {x : MethodParts} (hx : x ∈ c.methods)
    {y : Definition} (hy : y ∈ x.definitions) (hkind : y.kind ≠ .func) :
    y.name = x.name ++ "Params" ∨ y.name = x.name ++ "Payload" := by
  obtain ⟨_, _, hdrafted⟩ := h.methods.of_mem hx
  obtain ⟨_, _, -, hquery, -, hbody⟩ := hdrafted.parts
  have hstruct : y.kind = .struct := by
    rcases List.mem_cons.1 hy with rfl | hy
    · exact absurd rfl hkind
    · rcases List.mem_append.1 hy with hy | hy
      · exact hquery.kind_eq y hy
      · exact hbody.kind_eq y hy
  cases y with
  | struct s => exact hdrafted.struct_name hy
  | typeDef _ => cases hstruct
  | func _ => cases hstruct

/-- The package holds the types of the API whenever its types are those of the client. -/
theorem holdsTypes (h : c.Begun depth api operations p)
    (hverbs : ∀ o ∈ operations, o.2.verb ∈ verbs) {r : Package} (hr : r.WellFormed)
    (hmodels : ∀ x ∈ c.models, x ∈ r.definitions) (htypes : ∀ x ∈ r.definitions, x.kind ≠ .func →
      x ∈ c.models ∨ ∃ y ∈ c.methods, x ∈ y.definitions) : HoldsTypes api r where
  declared := fun t ht => by
    obtain ⟨x, hx, hkind, hname⟩ := h.exists_name ht
    exact (refersToType_iff hr).2 ⟨x, hmodels x hx, hkind, hname⟩
  alphanumeric := fun n hn => by
    obtain ⟨x, hx, hkind, rfl⟩ := (refersToType_iff hr).1 hn
    obtain hx | ⟨y, hy, hx⟩ := htypes x hx hkind
    · obtain ⟨t, -, hname⟩ := h.exists_declared hx
      rw [hname]
      exact alphanumeric_exportedName t.name
    · obtain ⟨_, _, hdrafted⟩ := h.methods.of_mem hy
      have ho : y.operation ∈ operations := h.methods.operation_mem hy
      have hname := alphanumeric_configuredName (hverbs _ ho) hdrafted.name
      obtain hsuffix | hsuffix := h.exists_operation hy hx hkind <;>
        rw [hsuffix, String.toList_append]
      · exact hname.append (by decide)
      · exact hname.append (by decide)

/-- When the parts of an operation are drafted, its structs are not there already, and the types of
the package are those of the client. -/
theorem exists_parts (h : c.Begun depth api operations p) {x : MethodParts} (hx : x ∈ c.methods) :
    ∃ p₁ p₂,
      (QueryDrafted p₁ operationsPath x.name x.method.allQueryParameters x.queryArgs x.params
          x.queryPackages ∧ ¬HasStruct p₁ operationsPath (x.name ++ "Params")) ∧
      (BodyDrafted p₂ operationsPath x.name api x.method x.contentType x.payloadArgs x.payloads
          x.payloadPackages ∧ ¬HasStruct p₂ operationsPath (x.name ++ "Payload")) ∧
      p₂.WellFormed ∧ (∀ y ∈ c.models, y ∈ p₂.definitions) ∧
      ∀ y ∈ p₂.definitions, y.kind ≠ .func → y ∈ c.models ∨ ∃ z ∈ c.methods, y ∈ z.definitions := by
  obtain ⟨pre, post, hsplit⟩ := List.append_of_mem hx
  obtain ⟨p₁, p₂, _, _, hbefore, hquery, hnoParams, hparams, hbody, hnoPayload⟩ :=
    h.methods.not_hasStruct (h.base.file _ h.file?_operations) rfl hsplit
  have happ := (h.base.trans hbefore).trans hparams
  have hfile : ((c.modelled.withFile operationsPath).file? operationsPath).isSome := by
    simp [h.file?_operations]
  have hmem {y : Definition} := h.wellFormed_modelled.mem_definitions_of_appends hfile happ (d := y)
  refine ⟨p₁, p₂, ⟨hquery, hnoParams⟩, ⟨hbody, hnoPayload⟩,
    h.wellFormed_modelled.of_appends hfile happ,
    fun y hy => hmem.2 (.inl (h.mem_definitions_modelled.2 hy)), fun y hy hkind => ?_⟩
  obtain hy | hy := hmem.1 hy
  · exact .inl (h.mem_definitions_modelled.1 hy)
  · simp only [List.mem_append, List.mem_singleton, List.mem_flatMap] at hy
    obtain (rfl | ⟨z, hz, hy⟩ | rfl) | hy := hy
    · exact absurd rfl hkind
    · exact .inr ⟨z, by simp [hsplit, hz], hy⟩
    · exact absurd rfl hkind
    · exact .inr ⟨x, hx, by simp [MethodParts.definitions, hy]⟩

/-- When the payload of an operation is drafted, the package holds the types of the API, and the
structs of the operation are not there already. -/
theorem exists_stage (h : c.Begun depth api operations p)
    (hverbs : ∀ o ∈ operations, o.2.verb ∈ verbs) {x : MethodParts} (hx : x ∈ c.methods) :
    ∃ p₁ p₂,
      QueryDrafted p₁ operationsPath x.name x.method.allQueryParameters x.queryArgs x.params
        x.queryPackages ∧
      BodyDrafted p₂ operationsPath x.name api x.method x.contentType x.payloadArgs x.payloads
        x.payloadPackages ∧
      ¬HasStruct p₂ operationsPath (x.name ++ "Payload") ∧ HoldsTypes api p₂ := by
  obtain ⟨p₁, p₂, ⟨hquery, -⟩, ⟨hbody, hno⟩, hwf, hmodels, htypes⟩ := h.exists_parts hx
  exact ⟨p₁, p₂, hquery, hbody, hno, h.holdsTypes hverbs hwf hmodels htypes⟩

end ClientStages.Begun

/-- In the end, the package holds the types of the API. -/
theorem ClientStages.Drafted.holdsTypes_end {depth : Option Int} {api : Model} {p q : Package}
    {c : ClientStages} (h : c.Drafted depth api p q)
    (hverbs : ∀ o ∈ api.operations, o.2.verb ∈ verbs) : HoldsTypes api q := by
  refine h.holdsTypes hverbs h.wellFormed_end (fun x hx => h.mem_definitions.2 (.inl hx))
    fun x hx hkind => ?_
  obtain hx | hx := h.mem_definitions.1 hx
  · exact .inl hx
  · rcases List.mem_cons.1 hx with rfl | hx
    · exact absurd rfl hkind
    · exact .inr (List.mem_flatMap.1 hx)

end RamlClient.Client
