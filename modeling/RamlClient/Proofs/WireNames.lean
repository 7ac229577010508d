import RamlClient.Proofs.Descriptors
import RamlClient.Proofs.Redeclarations
/-!
# Wire names in structs

The fields of a struct are told apart by identifiers, and so are the structs of a file, but
identifiers do not tell names apart: `user_id` and `userId` have the same one. Of all properties
along a lineage that have one identifier the struct holds the first, and of all types that have one
identifier the file holds the first. A field carries the name of its property in JSON texts, so the
name of a property is lost exactly if another one came first.
-/

namespace RamlClient.Client

open Api Go

/-! ### New members -/

/-- What is found by a name is a new member. -/
theorem mem_newMembers_of_find? {α : Type} (name : α → String) {as : List α} {a : α} {n : String}
    (h : as.find? (fun b => name b == n) = some a) : a ∈ newMembers name [] as ∧ name a = n := by
  have hname : name a = n := by simpa using List.find?_some h
  subst hname
  exact ⟨mem_newMembers_iff.2 ⟨List.not_mem_nil, h⟩, rfl⟩

/-! ### Structs of a file -/

/-- In a file that was empty, a struct is found under its name. -/
theorem struct?_of_appends {p q : Package} {path : String} {imports : List String}
    {ds : List Definition} (hf : p.file? path = some (File.empty path))
    (hq : Appends path imports ds p q) {n : String} {s : Struct} :
    q.struct? path n = some s ↔ .struct s ∈ ds ∧ s.name = n := by
  have hdefinitions : ((File.empty path).addAll ds).definitions.Perm ds := by
    simpa [File.empty, File.definitions] using File.definitions_addAll (File.empty path) ds
  have hnodup : (((File.empty path).addAll ds).definitions.map Definition.name).Nodup :=
    (hdefinitions.map Definition.name).nodup_iff.2 hq.nodup
  rw [Package.struct?, hq.file _ hf]
  change ((File.empty path).addAll ds).struct? n = some s ↔ _
  constructor
  · intro h
    have hfound : ((File.empty path).addAll ds).definition? .struct n = some (.struct s) := by
      rw [File.definition?, h, Option.map_some]
    obtain ⟨hmem, -, hname⟩ := File.mem_of_definition? hfound
    exact ⟨hdefinitions.mem_iff.1 hmem, hname⟩
  · rintro ⟨hs, rfl⟩
    have hfound := File.definition?_of_mem hnodup (hdefinitions.mem_iff.2 hs)
    simpa [File.definition?] using hfound

/-! ### First types and properties -/

/-- The first declared type with the identifier of a name. -/
def firstType? (api : Model) (name : String) : Option TypeDeclaration :=
  api.types.find? fun t => exportedName t.name == exportedName name

/-- The first property along the lineage of a type with the identifier of a name. -/
def firstProperty? (api : Model) (t : TypeDeclaration) (name : String) : Option Property :=
  ((lineage api t).1.flatMap (·.properties)).find? fun p => exportedName p.name == exportedName name

/-- Of the types with one exported name the first one is drafted. -/
theorem exists_firstType {api : Model} {t : TypeDeclaration} (ht : t ∈ api.types) :
    ∃ first ∈ distinctTypes api, firstType? api t.name = some first ∧
      exportedName first.name = exportedName t.name := by
  obtain ⟨first, hfirst⟩ : ∃ first, firstType? api t.name = some first :=
    Option.isSome_iff_exists.1 (List.find?_isSome.2 ⟨t, ht, by simp⟩)
  obtain ⟨hmem, hname⟩ := mem_newMembers_of_find?
    (fun t : TypeDeclaration => exportedName t.name) hfirst
  exact ⟨first, hmem, hfirst, hname⟩

/-- The file of the declared types has a struct under an identifier exactly if the first type with
this identifier is an object, and the struct is the one for that type. -/
theorem struct?_modelled_iff {api : Model} {p q : Package} {path : String} {imports : List String}
    {ds : List Definition} (hf : p.file? path = some (File.empty path))
    (hq : Appends path imports ds p q) (hall : List.Forall₂ (IsDrafted api) (distinctTypes api) ds)
    {first : TypeDeclaration} (hfirst : first ∈ distinctTypes api) {s : Struct} :
    q.struct? path (exportedName first.name) = some s ↔
      isObjectType api first = .ok true ∧ s = structFor api (exportedName first.name) first := by
  obtain ⟨x, hx, hdrafted⟩ := exists_mem_of_forall₂ hall.flip hfirst
  obtain ⟨isObject, hobject, rfl⟩ := hdrafted.isModel
  rw [struct?_of_appends hf hq]
  constructor
  · rintro ⟨hs, hname⟩
    have heq : Definition.struct s = modelDefinition api first isObject :=
      List.inj_on_of_nodup_map hq.nodup hs hx
        (hname.trans (name_modelDefinition api first isObject).symm)
    cases isObject with
    | true => exact ⟨hobject, Definition.struct.inj heq⟩
    | false => cases heq
  · rintro ⟨htrue, rfl⟩
    rw [htrue] at hobject
    cases hobject
    exact ⟨hx, name_modelDefinition api first true⟩

/-! ### Names that are carried -/

/-- The properties of the types of a built model are called in JSON texts what they are called in
the model. -/
theorem wireName_of_buildModel {entries : List (Value × Value)} {api : Model}
    (h : buildModel entries = .ok api) :
    ∀ t ∈ api.types, ∀ p ∈ t.properties, p.wireName = p.name := by
  intro t ht p hp
  obtain ⟨entry, hentry⟩ := exists_of_mem_types h ht
  rcases (buildType_eq_ok hentry).2 with hnone | ⟨raw, hproperties⟩
  · rw [hnone] at hp
    cases hp
  · exact (of_mem_buildProperties hproperties hp).2

/-- Two tags are the same only if they are made for one name. -/
theorem jsonTag_inj {m n : String} : jsonTag m = jsonTag n ↔ m = n := by
  unfold jsonTag
  rw [String.append_left_inj, String.append_right_inj]

/-- A struct has a field for a name in JSON texts. -/
def CarriesName (p : Package) (path struct wireName : String) : Prop :=
  ∃ s, p.struct? path struct = some s ∧ ∃ f ∈ s.fields, f.tag = some (jsonTag wireName)

/-- A type has a property or inherits it. -/
def HasProperty (api : Model) (t : TypeDeclaration) (p : Property) : Prop :=
  ∃ e, Reaches api t e ∧ p ∈ e.properties

/-- The properties along a lineage that ends are those that the type has or inherits. -/
theorem mem_lineage_properties_iff {api : Model} {t : TypeDeclaration}
    (h : (lineage api t).2 = none) {p : Property} : p ∈ (lineage api t).1.flatMap (·.properties) ↔
    HasProperty api t p := by
  rw [List.mem_flatMap]
  constructor
  · rintro ⟨e, he, hp⟩
    exact ⟨e, reaches_of_mem_lineageFrom he, hp⟩
  · rintro ⟨e, he, hp⟩
    exact ⟨e, mem_lineageFrom_of_reaches h he, hp⟩

/-- The properties of a built model have their own names in JSON texts. -/
theorem HasProperty.wireName {entries : List (Value × Value)} {api : Model}
    (hapi : buildModel entries = .ok api) {t : TypeDeclaration} (ht : t ∈ api.types) {p : Property}
    (h : HasProperty api t p) : p.wireName = p.name := by
  obtain ⟨e, he, hp⟩ := h
  obtain rfl | ⟨d, -, hedge⟩ := he.cases_tail
  · exact wireName_of_buildModel hapi _ ht p hp
  · exact wireName_of_buildModel hapi e hedge.declared.mem_types p hp

/-- A property that a type has or inherits has a first one of its identifier, which has a field. -/
theorem HasProperty.exists_first {api : Model} {t : TypeDeclaration}
    (hnone : (lineage api t).2 = none) {p : Property} (h : HasProperty api t p) :
    ∃ q, firstProperty? api t p.name = some q ∧
      q ∈ structProperties api t ∧ exportedName q.name = exportedName p.name ∧
      HasProperty api t q := by
  have hp := (mem_lineage_properties_iff hnone).2 h
  obtain ⟨q, hq⟩ : ∃ q, firstProperty? api t p.name = some q :=
    Option.isSome_iff_exists.1 (List.find?_isSome.2 ⟨p, hp, by simp⟩)
  obtain ⟨hmem, hname⟩ := mem_newMembers_of_find? (fun p : Property => exportedName p.name) hq
  exact ⟨q, hq, hmem, hname, (mem_lineage_properties_iff hnone).1 (List.mem_of_find?_eq_some hq)⟩

/-- The struct for a declared type has a field for the name of a property exactly if the first
property of the same identifier along the lineage has the same name. -/
theorem exists_tag_iff {entries : List (Value × Value)} {api : Model}
    (hapi : buildModel entries = .ok api) {t : TypeDeclaration} (ht : t ∈ api.types)
    (hnone : (lineage api t).2 = none) (name : String) :
    (∃ f ∈ (structFor api (exportedName t.name) t).fields, f.tag = some (jsonTag name)) ↔
      ∃ q, firstProperty? api t name = some q ∧ q.name = name := by
  have hwire {q : Property} (hq : q ∈ (lineage api t).1.flatMap (·.properties)) :
    q.wireName = q.name :=
    ((mem_lineage_properties_iff hnone).1 hq).wireName hapi ht
  constructor
  · rintro ⟨f, hf, htag⟩
    obtain ⟨q, hq, rfl⟩ := List.mem_map.1 hf
    obtain ⟨-, hfirst⟩ := mem_newMembers_iff.1 hq
    have hname : q.name = name := by
      rw [← hwire (List.mem_of_find?_eq_some hfirst)]
      exact jsonTag_inj.1 (Option.some.inj htag)
    refine ⟨q, ?_, hname⟩
    rw [firstProperty?, ← hname]
    exact hfirst
  · rintro ⟨q, hfirst, rfl⟩
    obtain ⟨hmem, -⟩ := mem_newMembers_of_find? (fun p : Property => exportedName p.name) hfirst
    refine ⟨propertyField q, List.mem_map_of_mem hmem, ?_⟩
    rw [propertyField, hwire (List.mem_of_find?_eq_some hfirst)]

/-- The names of the properties that a type has or inherits are told apart by their identifiers. -/
def TellsApart (api : Model) (t : TypeDeclaration) : Prop :=
  ∀ p q, HasProperty api t p → HasProperty api t q → exportedName p.name = exportedName q.name →
    p.name = q.name

/-- The first property of each identifier has the name of every property of this identifier exactly
if identifiers tell names apart. -/
theorem tellsApart_iff {api : Model} {t : TypeDeclaration} (hnone : (lineage api t).2 = none) :
    TellsApart api t ↔
      ∀ p, HasProperty api t p → ∃ q, firstProperty? api t p.name = some q ∧ q.name = p.name := by
  constructor
  · intro h p hp
    obtain ⟨q, hfirst, -, hname, hq⟩ := hp.exists_first hnone
    exact ⟨q, hfirst, h q p hq hp hname⟩
  · intro h p q hp hq hname
    obtain ⟨r, hr, hrp⟩ := h p hp
    obtain ⟨s, hs, hsq⟩ := h q hq
    have heq : firstProperty? api t p.name = firstProperty? api t q.name := by
      rw [firstProperty?, hname, firstProperty?]
    rw [hr, hs] at heq
    rw [← hrp, ← hsq, Option.some.inj heq]

/-- The definitions of all types, drafted into a package without files. -/
theorem isDrafted_of_reserved {api : Model} {names : List String} {path : String}
    {notes : List String} {u : Unit} {d' : Draft}
    (hrun : (generateModels path api).run ⟨(Package.empty.reserve names).1.withFile path, notes⟩ =
      .ok u d') :
    ((Package.empty.reserve names).1.withFile path).file? path = some (File.empty path) ∧
      ∃ imports ds,
        Appends path imports ds ((Package.empty.reserve names).1.withFile path) d'.package ∧
        List.Forall₂ (IsDrafted api) (distinctTypes api) ds := by
  obtain ⟨hwf, hfiles, -, -⟩ := Package.WellFormed.empty.reserve names
  have hfile := file?_withFile_of_files_eq_nil hfiles path
  have hready : ((Package.empty.reserve names).1.withFile path).Ready path :=
    (hwf.withFile path).ready (by simp [hfile])
  obtain ⟨ds, happ, hall⟩ := isDrafted_of_generateModels hready hfile hrun
  exact ⟨hfile, _, ds, happ, hall⟩

/-- The lineage of an object ends if its definition is drafted. -/
theorem lineage_ends_of_isDrafted {api : Model} {ds : List Definition}
    (hall : List.Forall₂ (IsDrafted api) (distinctTypes api) ds) {t : TypeDeclaration}
    (ht : t ∈ distinctTypes api) (hobject : isObjectType api t = .ok true) :
    (lineage api t).2 = none := by
  obtain ⟨x, -, hx⟩ := exists_mem_of_forall₂ hall.flip ht
  exact hx.acyclic (by rw [isObject, hobject])

/-- After the definitions of all types are drafted into a package without files, the struct of an
identifier is the one for the first type with it, and is there exactly if this type is an object. -/
theorem struct?_of_generateModels {api : Model} {names : List String} {path : String}
    {notes : List String} {u : Unit} {d' : Draft}
    (hrun : (generateModels path api).run ⟨(Package.empty.reserve names).1.withFile path, notes⟩ =
      .ok u d')
    {t : TypeDeclaration} (ht : t ∈ api.types) :
    ∃ first ∈ api.types, firstType? api t.name = some first ∧
      (isObjectType api first = .ok true → (lineage api first).2 = none) ∧
      ∀ s, d'.package.struct? path (exportedName t.name) = some s ↔
        isObjectType api first = .ok true ∧ s = structFor api (exportedName first.name) first := by
  obtain ⟨hfile, _, ds, happ, hall⟩ := isDrafted_of_reserved hrun
  obtain ⟨first, hfirst, hfound, hname⟩ := exists_firstType ht
  refine ⟨first, List.mem_of_find?_eq_some hfound, hfound, lineage_ends_of_isDrafted hall hfirst,
    fun s => ?_⟩
  rw [← hname]
  exact struct?_modelled_iff hfile happ hall hfirst

/-- When the names of properties are carried. For any API that a document declares, and the
definitions of its types drafted into a package without files, take a declared type that describes
an object, and the first type of its identifier. The struct of this identifier is there exactly if
that first type describes an object too, and then it has no field name twice and a field for each
property that the first type has or inherits, made from the first property of the same identifier.
It carries the name of a property of the given type exactly if the first type is an object and its
first property of the same identifier has the same name. So the struct of a type that is the first
of its identifier carries all names exactly if identifiers tell the names apart. -/
theorem wireNames_carried_iff {entries : List (Value × Value)} {api : Model}
    (hapi : buildModel entries = .ok api) {names : List String} {path : String}
    {notes : List String} {u : Unit} {d' : Draft}
    (hrun : (generateModels path api).run ⟨(Package.empty.reserve names).1.withFile path, notes⟩ =
      .ok u d')
    {t : TypeDeclaration} (ht : t ∈ api.types) (hobject : isObjectType api t = .ok true) :
    ∃ first, firstType? api t.name = some first ∧
      ((d'.package.struct? path (exportedName t.name)).isSome ↔ isObjectType api first = .ok true) ∧
      (∀ s, d'.package.struct? path (exportedName t.name) = some s → (s.fields.map (·.name)).Nodup ∧
        ∀ p, HasProperty api first p → ∃ q, firstProperty? api first p.name = some q ∧
          exportedName q.name = exportedName p.name ∧ propertyField q ∈ s.fields) ∧
      (∀ p, HasProperty api t p → (CarriesName d'.package path (exportedName t.name) p.wireName ↔
        isObjectType api first = .ok true ∧ ∃ q, firstProperty? api first p.name = some q ∧
        q.name = p.name)) ∧
      (first = t → ((∀ p, HasProperty api t p →
        CarriesName d'.package path (exportedName t.name) p.wireName) ↔ TellsApart api t)) := by
  obtain ⟨first, hmem, hfound, hends, hstruct⟩ := struct?_of_generateModels hrun ht
  have hcarries (p : Property) (hp : HasProperty api t p) :
      CarriesName d'.package path (exportedName t.name) p.wireName ↔
        isObjectType api first = .ok true ∧
          ∃ q, firstProperty? api first p.name = some q ∧ q.name = p.name := by
    rw [hp.wireName hapi ht]
    constructor
    · rintro ⟨s, hs, htag⟩
      obtain ⟨htrue, rfl⟩ := (hstruct _).1 hs
      exact ⟨htrue, (exists_tag_iff hapi hmem (hends htrue) p.name).1 htag⟩
    · rintro ⟨htrue, hq⟩
      exact ⟨_, (hstruct _).2 ⟨htrue, rfl⟩, (exists_tag_iff hapi hmem (hends htrue) p.name).2 hq⟩
  refine ⟨first, hfound, ?_, ?_, hcarries, ?_⟩
  · constructor
    · intro hsome
      obtain ⟨s, hs⟩ := Option.isSome_iff_exists.1 hsome
      exact ((hstruct _).1 hs).1
    · intro htrue
      exact Option.isSome_iff_exists.2 ⟨_, (hstruct _).2 ⟨htrue, rfl⟩⟩
  · intro s hs
    obtain ⟨htrue, rfl⟩ := (hstruct _).1 hs
    refine ⟨structFor_fields_nodup api _ first, ?_⟩
    intro p hp
    obtain ⟨q, hq, hfield, hsame, -⟩ := hp.exists_first (hends htrue)
    exact ⟨q, hq, hsame, List.mem_map_of_mem hfield⟩
  · rintro rfl
    rw [tellsApart_iff (hends hobject)]
    refine forall₂_congr fun p hp => ?_
    rw [hcarries p hp, and_iff_right hobject]

/-- A document with a type of two properties. -/
def keyedDocument (key : String) : List (Value × Value) :=
  [(.text "title", .text "T"),
   (.text "types", .mapping [(.text "User", .mapping
     [(.text "properties", .mapping [(.text "user_id", .text "string"),
       (.text key, .text "string")])])])]

/-- The type that the document declares. -/
def keyedType (key : String) : TypeDeclaration :=
  ⟨"User", ["object"], [⟨"user_id", ⟨"string", true, none, []⟩, "user_id"⟩,
    ⟨key, ⟨"string", true, none, []⟩, key⟩], ⟨"object", true, none, []⟩⟩

/-- The type of the document inherits from none. -/
theorem lineage_keyedType {api : Model} {key : String} (htypes : api.types = [keyedType key]) :
    lineage api (keyedType key) = ([keyedType key], none) := by
  have hnone : parents api (keyedType key) = [] := by
    simp [parents, Model.findType?, htypes, keyedType]
  rw [lineage, lineageFrom_of_notMem List.not_mem_nil, hnone]
  rfl

/-- The type of the document is an object type. -/
theorem isObjectType_keyedType {api : Model} {key : String} (htypes : api.types = [keyedType key]) :
    isObjectType api (keyedType key) = .ok true := by
  unfold isObjectType
  rw [lineage_keyedType htypes]
  rfl

/-- The API of a document and the draft of its types in a new package, if both can be made. -/
def modelled? (path : String) (entries : List (Value × Value)) : Option (Model × Draft) :=
  match buildModel entries with
  | .ok api =>
    match (generateModels path api).run ⟨(Package.empty.reserve []).1.withFile path, []⟩ with
    | .ok _ d' => some (api, d')
    | .error _ _ => none
  | .error _ => none

/-- What is drafted for a document is the draft of the types of its model. -/
theorem modelled?_eq_some {path : String} {entries : List (Value × Value)} {x : Model × Draft}
    (h : modelled? path entries = some x) : buildModel entries = .ok x.1 ∧
      (generateModels path x.1).run ⟨(Package.empty.reserve []).1.withFile path, []⟩ =
        .ok () x.2 := by
  unfold modelled? at h
  split at h
  · rename_i api hapi
    split at h
    · cases h
      exact ⟨hapi, ‹_›⟩
    · cases h
  · cases h

/-- Whether the only type of an API has two properties, and the struct for it certain fields. -/
def draftsKeyed (x : Model × Draft) (key : String) (fields : List Field) : Bool :=
  decide (x.1.types = [keyedType key]) &&
    decide (x.2.package.struct? "models.go" "User" = some ⟨"User", fields⟩)

/-- The fields that are drafted for the documents. -/
theorem draft_keyed :
    (modelled? "models.go" (keyedDocument "email")).any (draftsKeyed · "email"
      [⟨"UserID", "string", some (jsonTag "user_id")⟩,
        ⟨"Email", "string", some (jsonTag "email")⟩]) = true ∧
    (modelled? "models.go" (keyedDocument "userId")).any (draftsKeyed · "userId"
      [⟨"UserID", "string", some (jsonTag "user_id")⟩]) = true := by
  delta modelled? generateModels generateModel
  simp only [isObjectType, generateStruct, lineage_eq_upTo]
  constructor
  · decide +kernel
  · decide +kernel

/-- Names with different identifiers are both carried. -/
theorem wireNames_carried_keyed : ∃ api d', buildModel (keyedDocument "email") = .ok api ∧
    (generateModels "models.go" api).run ⟨(Package.empty.reserve []).1.withFile "models.go", []⟩ =
      .ok () d' ∧
    ∃ t ∈ api.types, isObjectType api t = .ok true ∧ firstType? api t.name = some t ∧
    TellsApart api t ∧
      ∀ p, HasProperty api t p →
        CarriesName d'.package "models.go" (exportedName t.name) p.wireName := by
  obtain ⟨⟨api, d'⟩, hx, hdrafts⟩ := (Option.any_eq_true _ _).1 draft_keyed.1
  obtain ⟨hapi, hrun⟩ := modelled?_eq_some hx
  simp only [draftsKeyed, Bool.and_eq_true, decide_eq_true_eq] at hdrafts
  obtain ⟨htypes, -⟩ := hdrafts
  have ht : keyedType "email" ∈ api.types := by
    rw [htypes]
    exact List.mem_cons_self
  have hfound : firstType? api "User" = some (keyedType "email") := by
    rw [firstType?, htypes]
    decide +kernel
  have hlineage := lineage_keyedType htypes
  have happart : TellsApart api (keyedType "email") := by
    have hall : ∀ p ∈ (keyedType "email").properties, ∀ q ∈ (keyedType "email").properties,
        exportedName p.name = exportedName q.name → p.name = q.name := by decide +kernel
    intro p q hp hq
    rw [← mem_lineage_properties_iff (by rw [hlineage]), hlineage, List.flatMap_singleton] at hp hq
    exact hall p hp q hq
  obtain ⟨first, hfirst, -, -, -, hcarries⟩ :=
    wireNames_carried_iff hapi hrun ht (isObjectType_keyedType htypes)
  have heq : first = keyedType "email" := Option.some.inj (hfirst.symm.trans hfound)
  exact ⟨api, d', hapi, hrun, _, ht, isObjectType_keyedType htypes, hfound, happart,
    (hcarries heq).2 happart⟩

/-- Of two names with one identifier the second is lost. -/
theorem not_wireNames_carried_keyed : ∃ api d', buildModel (keyedDocument "userId") = .ok api ∧
    (generateModels "models.go" api).run ⟨(Package.empty.reserve []).1.withFile "models.go", []⟩ =
      .ok () d' ∧
    ∃ t ∈ api.types, isObjectType api t = .ok true ∧ firstType? api t.name = some t ∧
      d'.package.struct? "models.go" (exportedName t.name) =
        some ⟨"User", [⟨"UserID", "string", some (jsonTag "user_id")⟩]⟩ ∧
      ∃ p ∈ t.properties, p.wireName = "userId" ∧
        ¬CarriesName d'.package "models.go" (exportedName t.name) p.wireName := by
  obtain ⟨⟨api, d'⟩, hx, hdrafts⟩ := (Option.any_eq_true _ _).1 draft_keyed.2
  obtain ⟨hapi, hrun⟩ := modelled?_eq_some hx
  simp only [draftsKeyed, Bool.and_eq_true, decide_eq_true_eq] at hdrafts
  obtain ⟨htypes, hstruct⟩ := hdrafts
  have ht : keyedType "userId" ∈ api.types := by
    rw [htypes]
    exact List.mem_cons_self
  have hfound : firstType? api "User" = some (keyedType "userId") := by
    rw [firstType?, htypes]
    decide +kernel
  have hname : exportedName (keyedType "userId").name = "User" := by decide +kernel
  refine ⟨api, d', hapi, hrun, _, ht, isObjectType_keyedType htypes, hfound, ?_⟩
  rw [hname]
  refine ⟨hstruct, ⟨"userId", ⟨"string", true, none, []⟩, "userId"⟩, by simp [keyedType], rfl, ?_⟩
  rintro ⟨s, hs, f, hf, htag⟩
  rw [hstruct] at hs
  cases hs
  obtain rfl := List.mem_singleton.1 hf
  exact absurd (jsonTag_inj.1 (Option.some.inj htag)) (by decide)

end RamlClient.Client
