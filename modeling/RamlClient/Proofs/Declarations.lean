import RamlClient.Client.Models
import RamlClient.Proofs.Drafting
import RamlClient.Proofs.Growth
/-!
# What is declared for the types of an API

A struct for a declared type holds the new ones among the properties of its lineage, so that no
field is there twice. The definitions that are declared for the types of an API are one for each
type whose identifier has none yet.
-/

namespace RamlClient.Client

open Api Go

/-! ### Fields of structs -/

/-- No two new members have one name, and none has a name that was there. -/
theorem newMembers_names {α : Type} (name : α → String) (names : List String) (as : List α) :
    ((newMembers name names as).map name).Nodup ∧ ∀ a ∈ newMembers name names as,
    name a ∉ names := by
  induction as generalizing names with
  | nil => simp [newMembers]
  | cons a r ih =>
    rw [newMembers]
    split
    · exact ih names
    · rename_i ha
      obtain ⟨hnodup, hnew⟩ := ih (names ++ [name a])
      simp only [List.mem_append, List.mem_singleton, not_or] at hnew
      constructor
      · rw [List.map_cons, List.nodup_cons]
        refine ⟨?_, hnodup⟩
        intro hmem
        obtain ⟨b, hb, hname⟩ := List.mem_map.1 hmem
        exact (hnew b hb).2 hname
      · intro b hb
        rcases List.mem_cons.1 hb with rfl | hb
        · exact ha
        · exact (hnew b hb).1

/-- The new members of a row are in its order. -/
theorem newMembers_sublist {α : Type} (name : α → String) (names : List String) (as : List α) :
    (newMembers name names as).Sublist as := by
  induction as generalizing names with
  | nil => exact .slnil
  | cons a r ih =>
    rw [newMembers]
    split
    · exact (ih _).cons a
    · exact (ih _).cons_cons a

/-- Every member has a name that was there or the name of a new member. -/
theorem name_mem_newMembers {α : Type} (name : α → String) (names : List String) {as : List α}
    {a : α} (ha : a ∈ as) : name a ∈ names ∨ name a ∈ (newMembers name names as).map name := by
  induction as generalizing names with
  | nil => cases ha
  | cons b r ih =>
    rw [newMembers]
    rcases List.mem_cons.1 ha with rfl | ha
    · split
      · exact .inl ‹_›
      · exact .inr (by simp)
    · split
      · exact ih names ha
      · obtain hold | hnew := ih (names ++ [name b]) ha
        · rcases List.mem_append.1 hold with hold | hold
          · exact .inl hold
          · exact .inr (by simp [List.mem_singleton.1 hold])
        · exact .inr (by simpa using .inr (List.mem_map.1 hnew))

/-- The properties that the struct for a declaration has fields for. -/
def structProperties (api : Model) (t : TypeDeclaration) : List Property :=
  newProperties [] ((lineage api t).1.flatMap (·.properties))

/-- The struct for a declaration. -/
def structFor (api : Model) (name : String) (t : TypeDeclaration) : Struct :=
  ⟨name, (structProperties api t).map propertyField⟩

/-- A struct for a declaration has no field name twice. -/
theorem structFor_fields_nodup (api : Model) (name : String) (t : TypeDeclaration) :
    ((structFor api name t).fields.map (·.name)).Nodup := by
  have hnames := (newMembers_names (fun p : Property => exportedName p.name) []
    ((lineage api t).1.flatMap (·.properties))).1
  simpa [structFor, structProperties, newProperties, propertyField, Function.comp_def] using hnames

/-- The check for cycles passes if there is none. -/
theorem checkAcyclic_eq_ok {cycle : Option (List String)} {u : Unit} :
    checkAcyclic cycle = .ok u ↔ cycle = none := by
  cases cycle <;> simp [checkAcyclic]

/-- The draft with a struct for a declaration. -/
def structDraft (path : String) (api : Model) (name : String) (t : TypeDeclaration) (d : Draft) :
    Draft where
  package := (d.package.insert path (.struct ⟨name, []⟩)).updateFile path
    (·.updateStruct name (Struct.withFields ((structProperties api t).map propertyField)))
  notes := d.notes ++
    ["struct " ++ name ++ ": " ++ toString (0 + (structProperties api t).length) ++ " fields"]

/-- A struct that is not there is drafted exactly if its name is free and the lineage does not lead
back to itself. -/
theorem generateStruct_eq_ok_iff {path : String} {api : Model} {name : String} {t : TypeDeclaration}
    {d d' : Draft} {f : File} {packages : List String} (hf : d.package.file? path = some f)
    (hnew : f.struct? name = none) :
    (generateStruct path api name t).run d = .ok packages d' ↔
      (d.package.isFree name (.defined ⟨path, .struct, name⟩) = true ∧ (lineage api t).2 = none) ∧
        packages = (structProperties api t).flatMap (fun p => typePackages p.type) ∧
        d' = structDraft path api name t d := by
  have hdeclare (q : Package) : d.package.declareStruct path name = .ok q ↔
      d.package.isFree name (.defined ⟨path, .struct, name⟩) = true ∧
        q = d.package.insert path (.struct ⟨name, []⟩) :=
    Package.declare_eq_ok_iff (d := .struct ⟨name, []⟩) hf (by simp [File.definition?, hnew])
  have hfile : ((d.package.insert path (.struct ⟨name, []⟩)).file? path) =
      some (f.add (.struct ⟨name, []⟩)) := by simp [Package.file?_insert, hf]
  have hstruct : (f.add (.struct ⟨name, []⟩)).struct? name = some ⟨name, []⟩ := by
    simp only [File.struct?] at hnew
    simp [File.struct?, File.add, hnew]
  simp only [generateStruct, Steps.run_bind_eq_ok, Drafting.run_attempt_eq_ok, Drafting.run_file,
    Drafting.run_change, Drafting.run_note, Drafting.run_orError_eq_ok, Steps.run_pure_eq_ok,
    EStateM.Result.ok.injEq, hdeclare, checkAcyclic_eq_ok]
  constructor
  · rintro ⟨_, _, ⟨q, ⟨hfree, rfl⟩, rfl⟩, file, _, ⟨rfl, rfl⟩, _, _, ⟨-, rfl⟩, _, _, ⟨hcycle, rfl⟩,
      _, _, ⟨-, rfl⟩, rfl, rfl⟩
    simp only [hfile, Option.getD_some, hstruct, Option.map_some, List.map_nil, List.length_nil]
    exact ⟨⟨hfree, hcycle⟩, rfl, rfl⟩
  · rintro ⟨⟨hfree, hcycle⟩, rfl, rfl⟩
    refine ⟨(), _, ⟨_, ⟨hfree, rfl⟩, rfl⟩, _, _, ⟨rfl, rfl⟩, (), _, ⟨trivial, rfl⟩, (), _,
      ⟨hcycle, rfl⟩, (), _, ⟨trivial, rfl⟩, ?_⟩
    simp only [hfile, Option.getD_some, hstruct, Option.map_some, List.map_nil, List.length_nil]
    exact ⟨rfl, rfl⟩

/-- A new struct for a declaration is appended if the lineage does not lead back to itself. -/
theorem generateStruct_eq_ok {path : String} {api : Model} {name : String} {t : TypeDeclaration}
    {d d' : Draft} {packages : List String} (hp : d.package.Ready path)
    (hnew : ∀ f, d.package.file? path = some f → f.struct? name = none)
    (h : (generateStruct path api name t).run d = .ok packages d') :
    (lineage api t).2 = none ∧
      packages = (structProperties api t).flatMap (fun p => typePackages p.type) ∧
      Appends path [] [.struct (structFor api name t)] d.package d'.package := by
  obtain ⟨f, hf⟩ := Option.isSome_iff_exists.1 hp.isSome_file?
  obtain ⟨⟨hfree, hacyclic⟩, rfl, rfl⟩ := (generateStruct_eq_ok_iff hf (hnew f hf)).1 h
  have hundeclared := hp.isDeclared_of_isFree hf (d := .struct ⟨name, []⟩)
    (by simp [File.definition?, hnew f hf]) hfree
  exact ⟨hacyclic, rfl, hp.appends_struct hundeclared ((structProperties api t).map propertyField)⟩

/-! ### Definitions for all types -/

/-- The definition for a declared type: a struct for an object, and a type definition for all
else. -/
def modelDefinition (api : Model) (t : TypeDeclaration) (isObject : Bool) : Definition :=
  if isObject then .struct (structFor api (exportedName t.name) t)
  else .typeDef ⟨exportedName t.name, typeText t.descriptor⟩

/-- The definition of a declared type has the exported name of the type. -/
@[simp] theorem name_modelDefinition (api : Model) (t : TypeDeclaration) (isObject : Bool) :
    (modelDefinition api t isObject).name = exportedName t.name := by
  cases isObject <;> simp [modelDefinition, structFor]

/-- A definition is the one for a declared type. -/
def IsModel (api : Model) (t : TypeDeclaration) (x : Definition) : Prop :=
  ∃ isObject, isObjectType api t = .ok isObject ∧ x = modelDefinition api t isObject

/-- The definition of a declared type has the exported name of the type. -/
theorem IsModel.name_eq {api : Model} {t : TypeDeclaration} {x : Definition} (h : IsModel api t x) :
    x.name = exportedName t.name := by
  obtain ⟨isObject, -, rfl⟩ := h
  exact name_modelDefinition api t isObject

/-- The definition of a declared type is no function. -/
theorem IsModel.kind_ne {api : Model} {t : TypeDeclaration} {x : Definition} (h : IsModel api t x) :
    x.kind ≠ .func := by
  obtain ⟨isObject, -, rfl⟩ := h
  cases isObject <;> simp [modelDefinition]

/-- Whether a declaration describes an object; one whose inheritance has a cycle counts as none. -/
def isObject (api : Model) (t : TypeDeclaration) : Bool :=
  match isObjectType api t with
  | .ok b => b
  | .error _ => false

/-- The definition of a declared type. -/
def modelOf (api : Model) (t : TypeDeclaration) : Definition :=
  modelDefinition api t (isObject api t)

/-- The packages that the definition of a declared type needs. -/
def packagesOf (api : Model) (t : TypeDeclaration) : List String :=
  if isObject api t then (structProperties api t).flatMap fun p => typePackages p.type
  else typePackages t.descriptor

/-- What is drafted for a declared type has the exported name of the type. -/
@[simp] theorem name_modelOf (api : Model) (t : TypeDeclaration) :
    (modelOf api t).name = exportedName t.name := name_modelDefinition api t _

/-- The definition of a declared type can be made and registered. -/
structure Declarable (path : String) (api : Model) (p : Package) (t : TypeDeclaration) : Prop where
  /-- It can be told whether the type is an object. -/
  isObjectType : isObjectType api t = .ok (isObject api t)
  /-- The lineage of an object does not lead back to itself. -/
  acyclic : isObject api t = true → (lineage api t).2 = none
  /-- The name is free. -/
  isFree : p.isFree (exportedName t.name) (.defined ((modelOf api t).site path)) = true

/-- Once it is told whether a type is an object, its name has to be free and the lineage of an
object has to end. -/
theorem declarable_iff_of_isObjectType {path : String} {api : Model} {p : Package}
    {t : TypeDeclaration} {b : Bool} (hobject : isObjectType api t = .ok b) :
    Declarable path api p t ↔
      p.isFree (exportedName t.name) (.defined ((modelOf api t).site path)) = true ∧
        (b = true → (lineage api t).2 = none) := by
  have hb : isObject api t = b := by rw [isObject, hobject]
  constructor
  · intro h
    exact ⟨h.isFree, hb ▸ h.acyclic⟩
  · intro h
    exact ⟨by rw [hobject, hb], hb.symm ▸ h.2, h.1⟩

/-- What is drafted for a declared type is no function. -/
theorem kind_modelOf (api : Model) (t : TypeDeclaration) : (modelOf api t).kind ≠ .func := by
  rw [modelOf]
  cases isObject api t <;> simp [modelDefinition]

/-- A type whose identifier the file has is passed over. -/
theorem run_generateModel_of_mem {path : String} {api : Model} {t : TypeDeclaration} {d : Draft}
    {f : File} (hf : d.package.file? path = some f) (hthere : exportedName t.name ∈ f.typeNames) :
    (generateModel path api t).run d = .ok [] d := by
  rw [generateModel, Steps.run_bind_of_ok (Drafting.run_file path), hf, Option.getD_some,
    if_pos (File.hasStruct_or_hasTypeDef.2 hthere)]
  rfl

/-- A type whose identifier is new is drafted as what it is. -/
theorem run_generateModel_of_notMem {path : String} {api : Model} {t : TypeDeclaration} {d : Draft}
    {f : File} (hf : d.package.file? path = some f) (hnew : exportedName t.name ∉ f.typeNames) :
    (generateModel path api t).run d =
      (Drafting.orError (isObjectType api t) >>= fun isObject =>
        if isObject then generateStruct path api (exportedName t.name) t
        else do
          Drafting.attempt fun p =>
            p.declareTypeDef path (exportedName t.name) (typeText t.descriptor)
          pure (typePackages t.descriptor)).run d := by
  rw [generateModel, Steps.run_bind_of_ok (Drafting.run_file path), hf, Option.getD_some,
    if_neg (mt File.hasStruct_or_hasTypeDef.1 hnew)]

/-- A type definition that is not there is drafted exactly if its name is free. -/
theorem declareTypeDef_eq_ok_iff {path name text : String} {d d' : Draft} {f : File} {u : Unit}
    (hf : d.package.file? path = some f) (hnew : f.definition? .typeDef name = none) :
    (Drafting.attempt fun p => p.declareTypeDef path name text).run d = .ok u d' ↔
      d.package.isFree name (.defined ⟨path, .typeDef, name⟩) = true ∧
        d' = { d with package := d.package.insert path (.typeDef ⟨name, text⟩) } := by
  have hdeclare (q : Package) : d.package.declareTypeDef path name text = .ok q ↔
      d.package.isFree name (.defined ⟨path, .typeDef, name⟩) = true ∧
        q = d.package.insert path (.typeDef ⟨name, text⟩) :=
    Package.declare_eq_ok_iff (d := .typeDef ⟨name, text⟩) hf hnew
  rw [Drafting.run_attempt_eq_ok]
  constructor
  · rintro ⟨q, hq, rfl⟩
    obtain ⟨hfree, rfl⟩ := (hdeclare q).1 hq
    exact ⟨hfree, rfl⟩
  · rintro ⟨hfree, rfl⟩
    exact ⟨_, (hdeclare _).2 ⟨hfree, rfl⟩, rfl⟩

/-- The definition of a declared type that is not there is drafted exactly if it can be declared. -/
theorem generateModel_eq_ok_iff {path : String} {api : Model} {t : TypeDeclaration} {d d' : Draft}
    {f : File} {packages : List String} (hf : d.package.file? path = some f)
    (hnew : exportedName t.name ∉ f.typeNames) :
    (generateModel path api t).run d = .ok packages d' ↔
      Declarable path api d.package t ∧ packages = packagesOf api t ∧
        d' = if isObject api t then structDraft path api (exportedName t.name) t d
          else { d with package := d.package.insert path (modelOf api t) } := by
  rw [run_generateModel_of_notMem hf hnew]
  cases hobject : isObjectType api t with
  | error e =>
    rw [Steps.run_bind_eq_ok]
    constructor
    · rintro ⟨_, _, hrun, -⟩
      cases (Drafting.run_orError_eq_ok.1 hrun).1
    · rintro ⟨h, -⟩
      cases hobject.symm.trans h.isObjectType
  | ok b =>
    have hb : isObject api t = b := by rw [isObject, hobject]
    have hnone := File.definition?_eq_none_of_notMem (kind_modelOf api t) (by rwa [name_modelOf])
    rw [Steps.run_bind_of_ok (Drafting.run_orError_eq_ok.2 ⟨rfl, rfl⟩),
      declarable_iff_of_isObjectType hobject, packagesOf, hb]
    rw [modelOf, hb] at hnone ⊢
    cases b with
    | true =>
      have hstruct : f.struct? (exportedName t.name) = none := by
        simpa [modelDefinition, structFor, File.definition?] using hnone
      have hsite :
        (modelDefinition api t true).site path = ⟨path, .struct, exportedName t.name⟩ := by
        simp [modelDefinition, structFor, Definition.site]
      rw [if_pos rfl, if_pos rfl, if_pos rfl, generateStruct_eq_ok_iff hf hstruct, hsite]
      simp only [forall_const]
    | false =>
      have hdefinition : modelDefinition api t false =
          .typeDef ⟨exportedName t.name, typeText t.descriptor⟩ := by simp [modelDefinition]
      rw [hdefinition] at hnone ⊢
      have htypeDef : f.definition? .typeDef (exportedName t.name) = none := by simpa using hnone
      have hsite : (Definition.typeDef ⟨exportedName t.name, typeText t.descriptor⟩).site path =
          ⟨path, .typeDef, exportedName t.name⟩ := by simp [Definition.site]
      rw [hsite, if_neg Bool.false_ne_true, if_neg Bool.false_ne_true, if_neg Bool.false_ne_true,
        Steps.run_bind_eq_ok]
      constructor
      · rintro ⟨_, _, hrun, hpackages⟩
        obtain ⟨hfree, rfl⟩ := (declareTypeDef_eq_ok_iff hf htypeDef).1 hrun
        obtain ⟨rfl, rfl⟩ := Steps.run_pure_eq_ok.1 hpackages
        exact ⟨⟨hfree, fun h => absurd h Bool.false_ne_true⟩, rfl, rfl⟩
      · rintro ⟨⟨hfree, -⟩, rfl, rfl⟩
        exact ⟨(), _, (declareTypeDef_eq_ok_iff hf htypeDef).2 ⟨hfree, rfl⟩, rfl⟩

/-- A definition is the one for a declared type, and the lineage of an object does not lead back to
itself. -/
structure IsDrafted (api : Model) (t : TypeDeclaration) (x : Definition) : Prop where
  /-- The definition is the one for the type. -/
  isModel : IsModel api t x
  /-- The lineage of an object ends. -/
  acyclic : isObject api t = true → (lineage api t).2 = none

/-- A declared type gets its definition, unless the file has a struct or type definition of its
identifier. -/
theorem generateModel_eq_ok {path : String} {api : Model} {t : TypeDeclaration} {d d' : Draft}
    {f : File} {packages : List String} (hp : d.package.Ready path)
    (hf : d.package.file? path = some f)
    (h : (generateModel path api t).run d = .ok packages d') :
    if exportedName t.name ∈ f.typeNames then d.package = d'.package ∧ packages = []
    else packages = packagesOf api t ∧
      ∃ x, IsDrafted api t x ∧ Appends path [] [x] d.package d'.package := by
  split
  · rename_i hthere
    rw [run_generateModel_of_mem hf hthere] at h
    cases h
    exact ⟨rfl, rfl⟩
  · rename_i hnew
    obtain ⟨hdeclarable, hpackages, rfl⟩ := (generateModel_eq_ok_iff hf hnew).1 h
    have hnone := File.definition?_eq_none_of_notMem (kind_modelOf api t) (by rwa [name_modelOf])
    have hundeclared :=
      hp.isDeclared_of_isFree hf hnone (by rw [name_modelOf]; exact hdeclarable.isFree)
    rw [name_modelOf] at hundeclared
    refine ⟨hpackages, modelOf api t, ⟨⟨_, hdeclarable.isObjectType, rfl⟩, hdeclarable.acyclic⟩, ?_⟩
    split
    · rename_i hobject
      rw [modelOf, hobject]
      exact hp.appends_struct hundeclared _
    · exact Appends.insert path (by rwa [name_modelOf])

/-- The definitions for declared types: one for each type whose identifier is new, with its
packages. -/
theorem mapM_generateModel_eq_ok {path : String} {api : Model} {ts : List TypeDeclaration}
    {d d' : Draft} {f : File} {names : List String} {packages : List (List String)}
    (hp : d.package.Ready path) (hf : d.package.file? path = some f)
    (hnames : ∀ n, n ∈ f.typeNames ↔ n ∈ names)
    (h : (ts.mapM (generateModel path api)).run d = .ok packages d') :
    packages.flatten = (newMembers (fun t => exportedName t.name) names ts).flatMap
      (packagesOf api) ∧
      ∃ ds, Appends path [] ds d.package d'.package ∧
        List.Forall₂ (IsDrafted api) (newMembers (fun t => exportedName t.name) names ts) ds := by
  induction ts generalizing d f names packages with
  | nil =>
    obtain ⟨rfl, rfl⟩ := Steps.run_mapM_nil_eq_ok.1 h
    exact ⟨rfl, [], .refl path _, .nil⟩
  | cons t rest ih =>
    obtain ⟨_, e, _, hrun, hrest, rfl⟩ := Steps.run_mapM_cons_eq_ok.1 h
    have hstep := generateModel_eq_ok hp hf hrun
    simp only [hnames] at hstep
    rw [newMembers]
    split
    · rename_i hthere
      rw [if_pos hthere] at hstep
      rw [hstep.1] at hp hf ⊢
      rw [hstep.2, List.flatten_cons, List.nil_append]
      exact ih hp hf hnames hrest
    · rename_i hthere
      rw [if_neg hthere] at hstep
      obtain ⟨rfl, x, hx, happ⟩ := hstep
      have hnames' (n : String) : n ∈ (f.add x).typeNames ↔ n ∈ names ++ [exportedName t.name] := by
        rw [File.mem_typeNames_add, hnames, hx.isModel.name_eq, List.mem_append, List.mem_singleton,
          and_iff_right hx.isModel.kind_ne]
      obtain ⟨hflat, ds, happ', hall⟩ := ih (happ.ready hp) (happ.file f hf) hnames' hrest
      refine ⟨?_, x :: ds, happ.trans happ', .cons hx hall⟩
      rw [List.flatten_cons, hflat, List.flatMap_cons]

/-- The declared types that get a definition: those whose identifiers are new. -/
def distinctTypes (api : Model) : List TypeDeclaration :=
  newMembers (fun t => exportedName t.name) [] api.types

/-- All definitions are drafted if one after the other is, and the packages they need are imported
then. -/
theorem run_generateModels_eq_ok_iff {path : String} {api : Model} {d d' : Draft} {u : Unit} :
    (generateModels path api).run d = .ok u d' ↔
      ∃ packages e, (api.types.mapM (generateModel path api)).run d = .ok packages e ∧
        d' = { e with package := e.package.updateFile path (·.addImports packages.flatten) } := by
  rw [generateModels, Steps.run_bind_eq_ok]
  refine exists₂_congr fun packages e => and_congr_right fun _ => ?_
  rw [Drafting.run_addImports, EStateM.Result.ok.injEq, and_iff_right rfl, eq_comm]

/-- What is declared in an empty file for an API whose types can all be declared, and why it can
be. -/
theorem isDrafted_of_generateModels {path : String} {api : Model} {d d' : Draft} {u : Unit}
    (hp : d.package.Ready path) (hf : d.package.file? path = some (File.empty path))
    (h : (generateModels path api).run d = .ok u d') :
    ∃ ds, Appends path ((distinctTypes api).flatMap (packagesOf api)) ds d.package d'.package ∧
      List.Forall₂ (IsDrafted api) (distinctTypes api) ds := by
  obtain ⟨packages, e, hrun, rfl⟩ := run_generateModels_eq_ok_iff.1 h
  have hnames (n : String) : n ∈ (File.empty path).typeNames ↔ n ∈ ([] : List String) := Iff.rfl
  obtain ⟨hflat, ds, happ, hall⟩ := mapM_generateModel_eq_ok hp hf hnames hrun
  refine ⟨ds, ?_, hall⟩
  rw [distinctTypes, ← hflat]
  simpa using happ.trans (Appends.imports path packages.flatten e.package)

/-- What is declared in an empty file for an API whose types can all be declared. -/
theorem generateModels_eq_ok {path : String} {api : Model} {d d' : Draft} {u : Unit}
    (hp : d.package.Ready path) (hf : d.package.file? path = some (File.empty path))
    (h : (generateModels path api).run d = .ok u d') :
    ∃ ds, Appends path ((distinctTypes api).flatMap (packagesOf api)) ds d.package d'.package ∧
      List.Forall₂ (IsModel api) (distinctTypes api) ds := by
  obtain ⟨ds, happ, hall⟩ := isDrafted_of_generateModels hp hf h
  exact ⟨ds, happ, hall.imp fun _ _ hx => hx.isModel⟩

end RamlClient.Client
