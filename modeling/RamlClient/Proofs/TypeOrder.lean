import Mathlib.Data.List.Find
import Mathlib.Data.List.Perm.Basic
import Mathlib.Data.String.Basic
import RamlClient.Proofs.Declarations
import RamlClient.Proofs.Lineage
/-!
# The order of the declared types

Declared types whose identifiers differ can be declared in any order. Whether a type can be
declared, and what it becomes, depends on the declarations that are found under the names of its
lineage and on what the registry knows of its identifier, and no other type changes either.
-/

namespace RamlClient.Client

open Api Go

/-! ### Imports -/

/-- Two imports can be inserted in either order, the smaller one being the first. -/
theorem insertImport_comm_of_lt {a b : String} (h : a < b) (xs : List String) :
    insertImport a (insertImport b xs) = insertImport b (insertImport a xs) := by
  induction xs with
  | nil => simp [insertImport, h, h.not_gt, h.ne']
  | cons c r ih =>
    obtain hbc | rfl | hcb := lt_trichotomy b c
    · simp [insertImport, h, hbc, h.trans hbc, h.not_gt, h.ne']
    · simp [insertImport, h, h.not_gt, h.ne']
    · obtain hac | rfl | hca := lt_trichotomy a c
      · simp [insertImport, hcb.not_gt, hcb.ne', hac, h.not_gt, h.ne']
      · simp [insertImport, hcb.not_gt, hcb.ne']
      · simp [insertImport, hcb.not_gt, hcb.ne', hca.not_gt, hca.ne', ih]

/-- Two imports can be inserted in either order. -/
theorem insertImport_comm (a b : String) (xs : List String) :
    insertImport a (insertImport b xs) = insertImport b (insertImport a xs) := by
  obtain h | rfl | h := lt_trichotomy a b
  · exact insertImport_comm_of_lt h xs
  · rfl
  · exact (insertImport_comm_of_lt h xs).symm

/-- The order of added imports does not matter. -/
theorem addImports_perm (f : File) {xs ys : List String} (h : xs.Perm ys) :
    f.addImports xs = f.addImports ys := by
  rw [File.addImports, File.addImports, h.foldl_eq' fun a _ b _ ps => insertImport_comm b a ps]

/-! ### One type -/

/-- The second package is the first one with a definition in the file at a path. -/
structure Adds (path : String) (f : File) (x : Definition) (p q : Package) : Prop where
  /-- The file has the definition. -/
  file : q.file? path = some (f.add x)
  /-- All other names are what they were. -/
  entry : ∀ n, n ≠ x.name → q.entryOf? n = p.entryOf? n

/-- A new definition is added to its file. -/
theorem adds_insert {path : String} {f : File} {x : Definition} {p : Package}
    (hf : p.file? path = some f) : Adds path f x p (p.insert path x) where
  file := by simp [Package.file?_insert, hf]
  entry := fun n hn => by rw [Package.entryOf?_insert, if_neg hn]

/-- No struct changes if none of the name is found. -/
theorem updateStruct_of_struct? {f : File} {name : String} (h : f.struct? name = none)
    (change : Struct → Struct) : f.updateStruct name change = f := by
  have hid (s : Struct) (hs : s ∈ f.structs) : (if s.name = name then change s else s) = s :=
    if_neg (by simpa using List.find?_eq_none.1 h s hs)
  simp [File.updateStruct, List.map_congr_left hid]

/-- The draft of a struct of a new name adds it. -/
theorem adds_structDraft {path : String} {api : Model} {name : String} {t : TypeDeclaration}
    {d : Draft} {f : File} (hf : d.package.file? path = some f) (hnew : f.struct? name = none) :
    Adds path f (.struct (structFor api name t)) d.package
      (structDraft path api name t d).package where
  file := by
    have hadd := f.updateStruct_addAll [.struct ⟨name, []⟩] name
      (Struct.withFields ((structProperties api t).map propertyField))
    rw [updateStruct_of_struct? hnew] at hadd
    simp only [structDraft]
    rw [Package.file?_updateFile _ _ (by exact fun _ => rfl), if_pos rfl, Package.file?_insert,
      if_pos rfl, hf]
    simpa [File.addAll, Definition.onStruct, Struct.withFields, structFor] using hadd
  entry := fun n hn => by
    rw [structDraft, Package.entryOf?_updateFile, Package.entryOf?_insert]
    exact if_neg hn

/-- The draft of the definition of a declared type adds that definition. -/
theorem generateModel_adds {path : String} {api : Model} {t : TypeDeclaration} {d d' : Draft}
    {f : File} {packages : List String} (hf : d.package.file? path = some f)
    (hnew : exportedName t.name ∉ f.typeNames)
    (h : (generateModel path api t).run d = .ok packages d') :
    Adds path f (modelOf api t) d.package d'.package := by
  obtain ⟨-, -, rfl⟩ := (generateModel_eq_ok_iff hf hnew).1 h
  split
  · rename_i hobject
    rw [modelOf, hobject]
    exact adds_structDraft hf (File.notMem_typeNames.1 hnew).1
  · exact adds_insert hf

/-! ### All types -/

/-- Whether a type can be declared depends on what the registry knows of its identifier. -/
theorem declarable_congr {path : String} {api : Model} {p q : Package} {t : TypeDeclaration}
    (h : q.entryOf? (exportedName t.name) = p.entryOf? (exportedName t.name)) :
    Declarable path api q t ↔ Declarable path api p t := by
  have hfree (e : Entry) : q.isFree (exportedName t.name) e = p.isFree (exportedName t.name) e := by
    simp only [Package.isFree, h]
  exact ⟨fun hq => ⟨hq.isObjectType, hq.acyclic, hfree _ ▸ hq.isFree⟩,
    fun hp => ⟨hp.isObjectType, hp.acyclic, (hfree _).symm ▸ hp.isFree⟩⟩

/-- The draft of a type leaves the names of other types as they are, in the file and in the
registry. -/
theorem generateModel_leaves {path : String} {api : Model} {t s : TypeDeclaration} {d d' : Draft}
    {f : File} {packages : List String} (hf : d.package.file? path = some f)
    (hnew : exportedName t.name ∉ f.typeNames)
    (h : (generateModel path api t).run d = .ok packages d')
    (hne : exportedName s.name ≠ exportedName t.name) :
    (exportedName s.name ∉ (f.add (modelOf api t)).typeNames ↔ exportedName s.name ∉ f.typeNames) ∧
      (Declarable path api d'.package s ↔ Declarable path api d.package s) := by
  have hadds := generateModel_adds hf hnew h
  constructor
  · rw [File.mem_typeNames_add, name_modelOf]
    simp [hne]
  · apply declarable_congr (hadds.entry _ _)
    rwa [name_modelOf]

/-- Types of different identifiers are drafted exactly if each can be declared, and then their
definitions are added in their order: each one leaves what the later ones need. -/
theorem mapM_generateModel_eq_ok_iff (path : String) (api : Model) {ts : List TypeDeclaration}
    {d : Draft} {f : File} (hf : d.package.file? path = some f)
    (hdistinct : (ts.map fun t => exportedName t.name).Nodup)
    (hnew : ∀ t ∈ ts, exportedName t.name ∉ f.typeNames) :
    ((∃ packages d', (ts.mapM (generateModel path api)).run d = .ok packages d') ↔
      ∀ t ∈ ts, Declarable path api d.package t) ∧
    ∀ packages d', (ts.mapM (generateModel path api)).run d = .ok packages d' →
      packages = ts.map (packagesOf api) ∧
        d'.package.file? path = some (f.addAll (ts.map (modelOf api))) := by
  induction ts generalizing d f with
  | nil =>
    refine ⟨⟨fun _ => nofun, fun _ => ⟨[], d, rfl⟩⟩, ?_⟩
    intro packages d' h
    obtain ⟨rfl, rfl⟩ := Steps.run_mapM_nil_eq_ok.1 h
    exact ⟨rfl, hf⟩
  | cons t rest ih =>
    obtain ⟨hnotMem, hrest⟩ := List.nodup_cons.1 hdistinct
    have ht := hnew t List.mem_cons_self
    have hafter {packages : List String} {e : Draft}
        (hrun : (generateModel path api t).run d = .ok packages e) :
        e.package.file? path = some (f.add (modelOf api t)) ∧
          (∀ s ∈ rest, exportedName s.name ∉ (f.add (modelOf api t)).typeNames) ∧
          ∀ s ∈ rest, (Declarable path api e.package s ↔ Declarable path api d.package s) := by
      have hleaves (s : TypeDeclaration) (hs : s ∈ rest) :=
        generateModel_leaves (s := s) hf ht hrun fun heq => hnotMem (List.mem_map.2 ⟨s, hs, heq⟩)
      exact ⟨(generateModel_adds hf ht hrun).file,
        fun s hs => (hleaves s hs).1.2 (hnew s (List.mem_cons_of_mem t hs)), fun s hs =>
          (hleaves s hs).2⟩
    constructor
    · rw [List.forall_mem_cons]
      constructor
      · rintro ⟨packages, d', h⟩
        obtain ⟨_, e, _, hrun, hmap, rfl⟩ := Steps.run_mapM_cons_eq_ok.1 h
        obtain ⟨hfile, hnew', hdeclarable⟩ := hafter hrun
        have hall := (ih hfile hrest hnew').1.1 ⟨_, _, hmap⟩
        exact ⟨((generateModel_eq_ok_iff hf ht).1 hrun).1, fun s hs =>
          (hdeclarable s hs).1 (hall s hs)⟩
      · rintro ⟨hfirst, hall⟩
        have hrun := (generateModel_eq_ok_iff hf ht).2 ⟨hfirst, rfl, rfl⟩
        obtain ⟨hfile, hnew', hdeclarable⟩ := hafter hrun
        obtain ⟨others, d', hmap⟩ :=
          (ih hfile hrest hnew').1.2 fun s hs => (hdeclarable s hs).2 (hall s hs)
        exact ⟨_, d', Steps.run_mapM_cons_eq_ok.2 ⟨_, _, others, hrun, hmap, rfl⟩⟩
    · intro packages d' h
      obtain ⟨first, e, others, hrun, hmap, rfl⟩ := Steps.run_mapM_cons_eq_ok.1 h
      obtain ⟨hfile, hnew', -⟩ := hafter hrun
      obtain ⟨rfl, hfile'⟩ := (ih hfile hrest hnew').2 _ _ hmap
      obtain ⟨-, rfl, -⟩ := (generateModel_eq_ok_iff hf ht).1 hrun
      exact ⟨rfl, hfile'⟩

/-! ### Permutations -/

/-- What is found under a name does not depend on the order if no two have one name. -/
theorem find?_name_perm {α : Type} {name : α → String} {as bs : List α} (h : as.Perm bs)
    (hdistinct : (as.map name).Nodup) (n : String) :
    as.find? (name · == n) = bs.find? (name · == n) := by
  refine List.find?_eq_find?_of_perm h ?_
  rintro a ⟨ha, hname⟩ b ⟨hb, hname'⟩
  refine List.inj_on_of_nodup_map hdistinct ha hb ?_
  rw [beq_iff_eq.1 hname, beq_iff_eq.1 hname']

/-- The order of the types does not matter for the search, where their names are different. -/
theorem findType?_perm {api other : Model} (h : api.types.Perm other.types)
    (hdistinct : (api.types.map fun t => exportedName t.name).Nodup) :
    api.findType? = other.findType? := by
  have hnames : (api.types.map TypeDeclaration.name).Nodup :=
    .of_map exportedName (by simpa [Function.comp_def] using hdistinct)
  funext name
  exact find?_name_perm h hnames name

section

variable {api other : Model}

/-- Whether a declaration is an object type depends on the types that are found. -/
theorem isObject_congr (h : api.findType? = other.findType?) : isObject api = isObject other := by
  funext t
  rw [isObject, isObject, isObjectType_congr h]

/-- The properties of a struct depend on the types that are found. -/
theorem structProperties_congr (h : api.findType? = other.findType?) :
    structProperties api = structProperties other := by
  funext t
  rw [structProperties, structProperties, lineage_congr h]

/-- The definition of a declared type depends on the types that are found. -/
theorem modelOf_congr (h : api.findType? = other.findType?) : modelOf api = modelOf other := by
  funext t
  simp only [modelOf, isObject_congr h, modelDefinition, structFor, structProperties_congr h]

/-- The packages of a definition depend on the types that are found. -/
theorem packagesOf_congr (h : api.findType? = other.findType?) :
    packagesOf api = packagesOf other := by
  funext t
  rw [packagesOf, packagesOf, isObject_congr h, structProperties_congr h]

/-- Whether a type can be declared depends on the types that are found. -/
theorem Declarable.congr {path : String} (h : api.findType? = other.findType?) {p : Package}
    {t : TypeDeclaration} (ht : Declarable path api p t) : Declarable path other p t where
  isObjectType := by
    rw [← isObjectType_congr h, ← isObject_congr h]
    exact ht.isObjectType
  acyclic := by
    rw [← lineage_congr h, ← isObject_congr h]
    exact ht.acyclic
  isFree := by
    rw [← modelOf_congr h]
    exact ht.isFree

end

/-- What a run that declares types of different identifiers in an empty file does. -/
theorem generateModels_eq_ok_iff {path : String} {api : Model} {d : Draft}
    (hfile : d.package.file? path = some (File.empty path))
    (hdistinct : (api.types.map fun t => exportedName t.name).Nodup) :
    ((∃ d', (generateModels path api).run d = .ok () d') ↔
      ∀ t ∈ api.types, Declarable path api d.package t) ∧
    ∀ d', (generateModels path api).run d = .ok () d' →
      d'.package.file? path =
        some (((File.empty path).addAll (api.types.map (modelOf api))).addImports
        (api.types.map (packagesOf api)).flatten) := by
  obtain ⟨hiff, hok⟩ := mapM_generateModel_eq_ok_iff path api hfile hdistinct fun t _ =>
    List.not_mem_nil
  simp only [run_generateModels_eq_ok_iff]
  constructor
  · rw [← hiff]
    constructor
    · rintro ⟨d', packages, e, hrun, rfl⟩
      exact ⟨packages, e, hrun⟩
    · rintro ⟨packages, e, hrun⟩
      exact ⟨_, packages, e, hrun, rfl⟩
  · rintro d' ⟨packages, e, hrun, rfl⟩
    obtain ⟨rfl, hfile'⟩ := hok _ _ hrun
    rw [Package.file?_updateFile _ _ (by exact fun _ => rfl), if_pos rfl, hfile', Option.map_some]

/-- The definitions of one kind that are made for declared types do not depend on the order of the
types, if no two have one identifier. -/
theorem find?_modelOf_perm {α : Type} {pick : Definition → Option α} {nameOf : α → String}
    (hname : ∀ x a, pick x = some a → nameOf a = x.name) (api : Model)
    {ts us : List TypeDeclaration} (hperm : ts.Perm us)
    (hdistinct : (ts.map fun t => exportedName t.name).Nodup) (n : String) :
    ((ts.map (modelOf api)).filterMap pick).find? (nameOf · == n) =
      ((us.map (modelOf api)).filterMap pick).find? (nameOf · == n) := by
  refine find?_name_perm ((hperm.map _).filterMap _) ?_ n
  refine List.Nodup.sublist (Definition.names_filterMap_sublist hname _) ?_
  simpa [Function.comp_def] using hdistinct

/-- The type definition of a name does not depend on the order of the declared types. -/
theorem typeDef?_addAll_modelOf_perm (path : String) (api : Model) {ts us : List TypeDeclaration}
    (hperm : ts.Perm us) (hdistinct : (ts.map fun t => exportedName t.name).Nodup) (n : String) :
    ((File.empty path).addAll (ts.map (modelOf api))).typeDef? n =
      ((File.empty path).addAll (us.map (modelOf api))).typeDef? n := by
  have hname (x : Definition) (a : TypeDef) (h : x.typeDef? = some a) : a.name = x.name := by
    rw [Definition.typeDef?_eq_some_iff.1 h, Definition.name_typeDef]
  rw [File.typeDef?, File.typeDef?, File.typeDefs_addAll, File.typeDefs_addAll]
  exact find?_modelOf_perm hname api hperm hdistinct n

/-- The struct of a name does not depend on the order of the declared types. -/
theorem struct?_addAll_modelOf_perm (path : String) (api : Model) {ts us : List TypeDeclaration}
    (hperm : ts.Perm us) (hdistinct : (ts.map fun t => exportedName t.name).Nodup) (n : String) :
    ((File.empty path).addAll (ts.map (modelOf api))).struct? n =
      ((File.empty path).addAll (us.map (modelOf api))).struct? n := by
  have hname (x : Definition) (a : Struct) (h : x.struct? = some a) : a.name = x.name := by
    rw [Definition.struct?_eq_some_iff.1 h, Definition.name_struct]
  rw [File.struct?, File.struct?, File.structs_addAll, File.structs_addAll]
  exact find?_modelOf_perm hname api hperm hdistinct n

/-- The order of the declared types does not matter. If no two types have one identifier, an API can
be declared in an empty file exactly if it can be with its types in another order. Both files then
have the same type definition and the same struct under every name, and the same imports; the
definitions stand in the order of the types. -/
theorem generateModels_perm {path : String} {api other : Model} (hperm : other.types.Perm api.types)
    (hdistinct : (api.types.map fun t => exportedName t.name).Nodup) {d : Draft}
    (hfile : d.package.file? path = some (File.empty path)) :
    ((∃ d₁, (generateModels path api).run d = .ok () d₁) ↔
      ∃ d₂, (generateModels path other).run d = .ok () d₂) ∧
    ∀ d₁ d₂, (generateModels path api).run d = .ok () d₁ →
      (generateModels path other).run d = .ok () d₂ →
      ∃ f₁ f₂, d₁.package.file? path = some f₁ ∧ d₂.package.file? path = some f₂ ∧
        ((∀ n, f₁.typeDef? n = f₂.typeDef? n) ∧ (∀ n, f₁.struct? n = f₂.struct? n) ∧
          f₁.imports = f₂.imports) ∧
        (f₁.typeDefs = (api.types.map (modelOf api)).filterMap Definition.typeDef? ∧
          f₂.typeDefs = (other.types.map (modelOf api)).filterMap Definition.typeDef?) ∧
        f₁.structs = (api.types.map (modelOf api)).filterMap Definition.struct? ∧
          f₂.structs = (other.types.map (modelOf api)).filterMap Definition.struct? := by
  have hdistinct' : (other.types.map fun t => exportedName t.name).Nodup :=
    (hperm.map _).nodup_iff.2 hdistinct
  have hfind : api.findType? = other.findType? := findType?_perm hperm.symm hdistinct
  obtain ⟨hiff₁, hok₁⟩ := generateModels_eq_ok_iff hfile hdistinct
  obtain ⟨hiff₂, hok₂⟩ := generateModels_eq_ok_iff hfile hdistinct'
  constructor
  · rw [hiff₁, hiff₂]
    constructor
    · intro h t ht
      exact (h t (hperm.mem_iff.1 ht)).congr hfind
    · intro h t ht
      exact (h t (hperm.mem_iff.2 ht)).congr hfind.symm
  · intro d₁ d₂ h₁ h₂
    have hfile₂ := hok₂ d₂ h₂
    rw [← modelOf_congr hfind, ← packagesOf_congr hfind,
      addImports_perm _ (hperm.map (packagesOf api)).flatten] at hfile₂
    exact ⟨_, _, hok₁ d₁ h₁, hfile₂,
      ⟨typeDef?_addAll_modelOf_perm path api hperm.symm hdistinct,
        struct?_addAll_modelOf_perm path api hperm.symm hdistinct, by
          simp only [File.addImports, File.imports_addAll]⟩,
      ⟨File.typeDefs_addAll _ _, File.typeDefs_addAll _ _⟩,
      File.structs_addAll _ _, File.structs_addAll _ _⟩

/-- An object type. -/
def animalType : TypeDeclaration :=
  ⟨"animal", [], [⟨"name", ⟨"string", true, none, []⟩, "name"⟩], ⟨"object", true, none, []⟩⟩

/-- An object type that inherits from another one. -/
def dogType : TypeDeclaration :=
  ⟨"dog", ["animal"], [⟨"born", ⟨"datetime", true, none, []⟩, "born"⟩], ⟨"animal", true, none, []⟩⟩

/-- A type that is no object. -/
def chipType : TypeDeclaration := ⟨"chip", [], [], ⟨"integer", true, none, []⟩⟩

/-- An API that declares types only. -/
def petApi (types : List TypeDeclaration) : Model where
  title := "Pets"
  version := "1"
  baseUri := "http://localhost"
  mediaType := "application/json"
  types
  traits := []
  resources := []

/-- A package with a reserved name and an empty file. -/
def petDraft : Draft := ⟨(Package.empty.reserve ["Client"]).1.withFile "models.go", []⟩

/-- A subtype can be declared before the type that it inherits from. -/
theorem generateModels_perm_pets : ∃ d₁ d₂ f₁ f₂,
    (generateModels "models.go" (petApi [animalType, dogType, chipType])).run petDraft = .ok () d₁ ∧
    (generateModels "models.go" (petApi [chipType, dogType, animalType])).run petDraft = .ok () d₂ ∧
    d₁.package.file? "models.go" = some f₁ ∧ d₂.package.file? "models.go" = some f₂ ∧
    (∀ n, f₁.typeDef? n = f₂.typeDef? n) ∧ (∀ n, f₁.struct? n = f₂.struct? n) ∧
    f₁.imports = f₂.imports := by
  have hsucceeds : (generateModels "models.go" (petApi [animalType, dogType, chipType])).succeeds
      petDraft = true := by
    simp only [generateModels, generateModel, isObjectType, generateStruct, lineage_eq_upTo,
      show (petApi [animalType, dogType, chipType]).types =
        [animalType, dogType, chipType] from rfl,
      List.mapM_cons, List.mapM_nil]
    decide +kernel
  obtain ⟨_, d₁, h₁⟩ := Drafting.exists_run_of_succeeds hsucceeds
  have hperm : (petApi [chipType, dogType, animalType]).types.Perm
      (petApi [animalType, dogType, chipType]).types :=
    List.reverse_perm [animalType, dogType, chipType]
  have hfile : petDraft.package.file? "models.go" = some (File.empty "models.go") := by
    decide +kernel
  obtain ⟨hiff, heq⟩ := generateModels_perm hperm (by decide +kernel) hfile
  obtain ⟨d₂, h₂⟩ := hiff.1 ⟨d₁, h₁⟩
  obtain ⟨f₁, f₂, hf₁, hf₂, ⟨htypeDefs, hstructs, himports⟩, -⟩ := heq d₁ d₂ h₁ h₂
  exact ⟨d₁, d₂, f₁, f₂, h₁, h₂, hf₁, hf₂, htypeDefs, hstructs, himports⟩

end RamlClient.Client
