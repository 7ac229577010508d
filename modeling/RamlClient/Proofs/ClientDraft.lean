import RamlClient.Client.Target
import RamlClient.Proofs.InOrder
import RamlClient.Proofs.OperationStructs
/-!
# Drafts of whole clients

A client is drafted into a package without files: first the declared types into one file and then
the operations into another. The stages of a draft say what the two files hold and what was there
when each operation was drafted.
-/

namespace RamlClient.Client

open Api Go

/-- The stages of a client that has been drafted. -/
structure ClientStages where
  /-- The definitions of the declared types. -/
  models : List Definition
  /-- The packages that they need. -/
  modelImports : List String
  /-- The package with the definitions of the declared types. -/
  modelled : Package
  /-- The package that has the function for the base address too. -/
  based : Package
  /-- The parts of the operations. -/
  methods : List MethodParts
  /-- The package with all definitions. -/
  operated : Package

namespace ClientStages

/-- The definitions in the file for the operations. -/
def operationDefinitions (c : ClientStages) (api : Model) : List Definition :=
  .func (baseFunc api) :: c.methods.flatMap MethodParts.definitions

/-- The imports of the file for the operations. -/
def operationImports (c : ClientStages) : List String :=
  c.methods.flatMap MethodParts.imports ++ c.methods.flatMap MethodParts.packages

/-- The declared types and some operations have been drafted into a package. -/
structure Begun (depth : Option Int) (api : Model) (operations : List (Resource × Method))
    (p : Package) (c : ClientStages) : Prop where
  /-- The registry agrees with the files at the start. -/
  wellFormed : p.WellFormed
  /-- There are no files at the start. -/
  files : p.files = []
  /-- The definitions of the declared types are appended. -/
  models : Appends modelsPath c.modelImports c.models (p.withFile modelsPath) c.modelled
  /-- They are the ones for the types with new identifiers. -/
  isModel : List.Forall₂ (IsModel api) (distinctTypes api) c.models
  /-- The function for the base address is the first one in its file. -/
  base : Appends operationsPath [] [.func (baseFunc api)]
    (c.modelled.withFile operationsPath) c.based
  /-- The operations are drafted after it. -/
  methods : MethodsDrafted operationsPath api depth operations c.based c.operated c.methods

/-- The stages lead from one package to another. -/
structure Drafted (depth : Option Int) (api : Model) (p q : Package) (c : ClientStages) : Prop
    extends c.Begun depth api api.operations p where
  /-- The packages that the types of the operations need are imported in the end. -/
  imports : Appends operationsPath (c.methods.flatMap MethodParts.packages) [] c.operated q

end ClientStages

/-- The package that is drafted for a document, with some names reserved before. -/
def draftedPackage? (names : List String) (depth : Option Int) (entries : List (Value × Value)) :
    Option Package :=
  match buildModel entries with
  | .ok api =>
    match (draftDefinitions depth api).run ⟨(Package.empty.reserve names).1, []⟩ with
    | .ok _ d => some d.package
    | .error _ _ => none
  | .error _ => none

/-- A package that is drafted for a document is one for the model that is built from it. -/
theorem draftedPackage?_eq_some {names : List String} {depth : Option Int}
    {entries : List (Value × Value)} {p : Package}
    (h : draftedPackage? names depth entries = some p) :
    ∃ api d, buildModel entries = .ok api ∧
      (draftDefinitions depth api).run ⟨(Package.empty.reserve names).1, []⟩ = .ok () d ∧
      d.package = p := by
  unfold draftedPackage? at h
  split at h
  · rename_i api hapi
    split at h
    · exact ⟨api, _, hapi, ‹_›, Option.some.inj h⟩
    · cases h
  · cases h

/-- A package without files has an empty one where one is asked for. -/
theorem file?_withFile_of_files_eq_nil {p : Package} (hp : p.files = []) (path : String) :
    (p.withFile path).file? path = some (File.empty path) := by
  have hnone : p.file? path = none := by simp [Package.file?, hp]
  rw [Package.file?_withFile, if_pos rfl, hnone]
  rfl

/-- The declared types and the operations have files of their own. -/
theorem modelsPath_ne_operationsPath : modelsPath ≠ operationsPath := by decide

/-- Drafts the declared types, the function for the base address and some operations. -/
def draftOperations (depth : Option Int) (api : Model) (operations : List (Resource × Method)) :
    Drafting (List String) := do
  Drafting.change fun p => p.withFile modelsPath
  generateModels modelsPath api
  Drafting.change fun p => p.withFile operationsPath
  generateBaseUrl operationsPath api
  generateMethods operationsPath api depth operations

/-- A draft is finished by the imports for all operations. -/
theorem draftDefinitions_eq (depth : Option Int) (api : Model) :
    draftDefinitions depth api = (do
      let packages ← draftOperations depth api api.operations
      Drafting.addImports operationsPath packages) := by
  simp only [draftDefinitions, draftOperations, generateEndpoints, bind_assoc]

/-- What is drafted for the declared types and some operations if all of them can be. -/
theorem draftOperations_eq_ok {depth : Option Int} {api : Model}
    {operations : List (Resource × Method)} {d d' : Draft} {packages : List String}
    (hp : d.package.WellFormed) (hfiles : d.package.files = [])
    (h : (draftOperations depth api operations).run d = .ok packages d') :
    ∃ c : ClientStages, c.Begun depth api operations d.package ∧ c.operated = d'.package ∧
      c.methods.flatMap MethodParts.packages = packages := by
  simp only [draftOperations, Steps.run_bind_eq_ok, Drafting.run_change,
    EStateM.Result.ok.injEq] at h
  obtain ⟨_, _, ⟨-, rfl⟩, _, e, hmodels, _, _, ⟨-, rfl⟩, _, e', hbase, hmethods⟩ := h
  have hempty := file?_withFile_of_files_eq_nil hfiles modelsPath
  have hp' := hp.withFile modelsPath
  obtain ⟨ds, happ, hall⟩ := generateModels_eq_ok (hp'.ready (by simp [hempty])) hempty hmodels
  have he := hp'.of_appends (by simp [hempty]) happ
  have hnone : e.package.file? operationsPath = none := by
    rw [happ.other _ modelsPath_ne_operationsPath.symm, Package.file?_withFile,
      if_neg modelsPath_ne_operationsPath.symm]
    simp [Package.file?, hfiles]
  have hfile : (e.package.withFile operationsPath).file? operationsPath =
      some (File.empty operationsPath) := by
    simp [Package.file?_withFile, hnone]
  have hnew (f : File) (hf : (e.package.withFile operationsPath).file? operationsPath = some f) :
      f.func? baseUrlFunc = none := by
    rw [hfile, Option.some.injEq] at hf
    rw [← hf]
    rfl
  have hready : (e.package.withFile operationsPath).Ready operationsPath :=
    (he.withFile operationsPath).ready (by simp [hfile])
  obtain ⟨-, hbased⟩ := generateBaseUrl_eq_ok hready hnew hbase
  obtain ⟨xs, rfl, hxs⟩ := generateMethods_eq_ok (hbased.ready hready) hmethods
  exact ⟨⟨ds, _, e.package, e'.package, xs, d'.package⟩, ⟨hp, hfiles, happ, hall, hbased, hxs⟩, rfl,
    rfl⟩

/-- What is drafted for an API if all its types and operations can be. -/
theorem draftDefinitions_eq_ok {depth : Option Int} {api : Model} {d d' : Draft} {u : Unit}
    (hp : d.package.WellFormed) (hfiles : d.package.files = [])
    (h : (draftDefinitions depth api).run d = .ok u d') :
    ∃ c : ClientStages, c.Drafted depth api d.package d'.package := by
  rw [draftDefinitions_eq] at h
  obtain ⟨_, e, hrun, himports⟩ := Steps.run_bind_eq_ok.1 h
  obtain ⟨c, hc, hoperated, rfl⟩ := draftOperations_eq_ok hp hfiles hrun
  simp only [Drafting.run_addImports, EStateM.Result.ok.injEq] at himports
  obtain ⟨-, rfl⟩ := himports
  exact ⟨c, hc, hoperated ▸ .imports operationsPath _ _⟩

/-- What is drafted into a package that has reserved names only. -/
theorem draftDefinitions_reserved_eq_ok {depth : Option Int} {api : Model}
    {names notes : List String} {d : Draft} {u : Unit}
    (h : (draftDefinitions depth api).run ⟨(Package.empty.reserve names).1, notes⟩ = .ok u d) :
    ∃ c : ClientStages, c.Drafted depth api (Package.empty.reserve names).1 d.package := by
  obtain ⟨hwf, hfiles, -, -⟩ := Package.WellFormed.empty.reserve names
  exact draftDefinitions_eq_ok hwf hfiles h

namespace ClientStages.Begun

variable {depth : Option Int} {api : Model} {operations : List (Resource × Method)} {p : Package}
  {c : ClientStages}

/-! ### The stages -/

/-- The registry agrees with the files when the declared types are there. -/
theorem wellFormed_modelled (h : c.Begun depth api operations p) :
    (c.modelled.withFile operationsPath).WellFormed := by
  have hfile : ((p.withFile modelsPath).file? modelsPath).isSome := by
    simp [file?_withFile_of_files_eq_nil h.files modelsPath]
  exact ((h.wellFormed.withFile modelsPath).of_appends hfile h.models).withFile operationsPath

/-- The file for the operations is not there when the declared types are drafted. -/
theorem file?_modelled (h : c.Begun depth api operations p) :
    c.modelled.file? operationsPath = none := by
  rw [h.models.other _ modelsPath_ne_operationsPath.symm, Package.file?_withFile,
    if_neg modelsPath_ne_operationsPath.symm]
  simp [Package.file?, h.files]

/-- The file for the operations is empty at first. -/
theorem file?_operations (h : c.Begun depth api operations p) :
    (c.modelled.withFile operationsPath).file? operationsPath =
      some (File.empty operationsPath) := by
  simp [Package.file?_withFile, h.file?_modelled]

/-- At first, the definitions are those of the declared types. -/
theorem mem_definitions_modelled (h : c.Begun depth api operations p) {x : Definition} :
    x ∈ (c.modelled.withFile operationsPath).definitions ↔ x ∈ c.models := by
  have hfile : ((p.withFile modelsPath).file? modelsPath).isSome := by
    simp [file?_withFile_of_files_eq_nil h.files modelsPath]
  rw [Package.definitions_withFile,
    (h.wellFormed.withFile modelsPath).mem_definitions_of_appends hfile h.models,
    Package.definitions_withFile]
  simp [Package.definitions, h.files]

/-- Every definition in the file for the declared types is the one for such a type. -/
theorem exists_type (h : c.Begun depth api operations p) {x : Definition} (hx : x ∈ c.models) :
    ∃ t ∈ distinctTypes api, IsModel api t x := exists_mem_of_forall₂ h.isModel hx

/-- Every declared type with a new identifier has its definition. -/
theorem exists_model (h : c.Begun depth api operations p) {t : TypeDeclaration}
    (ht : t ∈ distinctTypes api) :
    ∃ x ∈ c.models, IsModel api t x := exists_mem_of_forall₂ h.isModel.flip ht

/-- The structs for operations are new. -/
theorem isNew (h : c.Begun depth api operations p) : ∀ x ∈ c.methods, x.IsNew api := by
  refine h.methods.isNew (h.base.file _ h.file?_operations) ?_
  rfl

end ClientStages.Begun

namespace ClientStages.Drafted

variable {depth : Option Int} {api : Model} {p q : Package} {c : ClientStages}

/-! ### Drafts that are finished -/

/-- There are two files in the end. -/
theorem paths (h : c.Drafted depth api p q) :
    q.files.map (·.path) = [modelsPath, operationsPath] := by
  have hnone : p.file? modelsPath = none := by simp [Package.file?, h.files]
  rw [h.imports.paths, h.methods.appends.paths, h.base.paths,
    Package.paths_withFile h.file?_modelled, h.models.paths, Package.paths_withFile hnone, h.files]
  rfl

/-- Drafting copies no other files. -/
theorem includes (h : c.Drafted depth api p q) : q.includes = p.includes := by
  rw [h.imports.includes, h.methods.appends.includes, h.base.includes, Package.includes_withFile,
    h.models.includes, Package.includes_withFile]

/-- All definitions of the operations are appended to an empty file. -/
theorem appends (h : c.Drafted depth api p q) :
    Appends operationsPath c.operationImports (c.operationDefinitions api)
      (c.modelled.withFile operationsPath) q := by
  simpa [operationImports, operationDefinitions] using
    (h.base.trans h.methods.appends).trans h.imports

/-- The registry agrees with the files in the end. -/
theorem wellFormed_end (h : c.Drafted depth api p q) : q.WellFormed :=
  h.wellFormed_modelled.of_appends (by simp [h.file?_operations]) h.appends

/-- In the end, the definitions are those of the declared types, of the base address and of the
operations. -/
theorem mem_definitions (h : c.Drafted depth api p q) {x : Definition} :
    x ∈ q.definitions ↔ x ∈ c.models ∨ x ∈ c.operationDefinitions api := by
  rw [h.wellFormed_modelled.mem_definitions_of_appends (by simp [h.file?_operations]) h.appends,
    h.mem_definitions_modelled]

end ClientStages.Drafted

/-! ### The whole package -/

/-- A reservation copies no files. -/
theorem includes_reserve (p : Package) (names : List String) :
    (p.reserve names).1.includes = p.includes := by
  induction names generalizing p with
  | nil => rfl
  | cons name rest ih =>
    rw [Package.reserve, Package.claim_eq]
    split
    · rename_i q hq
      split at hq
      · cases hq
        exact ih _
      · cases hq
    · rfl

/-- The package that has the runtime and in which its names are reserved. -/
def runtimePackage : Package := ((Package.empty.withInclude runtimeInclude).reserve runtimeNames).1

/-- The package with the runtime is well formed. -/
theorem wellFormed_withRuntime : (Package.empty.withInclude runtimeInclude).WellFormed where
  paths_nodup := Package.WellFormed.empty.paths_nodup
  names_nodup := Package.WellFormed.empty.names_nodup
  entry_of_mem := Package.WellFormed.empty.entry_of_mem
  mem_of_entry := Package.WellFormed.empty.mem_of_entry
  not_vacant := Package.WellFormed.empty.not_vacant

/-- The package with the runtime and its names is well formed. -/
theorem wellFormed_runtimePackage : runtimePackage.WellFormed :=
  (wellFormed_withRuntime.reserve runtimeNames).1

/-- The package with the runtime has no files that are rendered. -/
theorem files_runtimePackage : runtimePackage.files = [] :=
  (wellFormed_withRuntime.reserve runtimeNames).2.1

/-- The runtime's file is copied. -/
theorem includes_runtimePackage : runtimePackage.includes = [runtimeInclude] :=
  includes_reserve _ _

/-- The names of the runtime are taken. -/
theorem isDeclared_runtimePackage {n : String} (hn : n ∈ runtimeNames) :
    runtimePackage.isDeclared n = true := by
  have hall : ∀ n ∈ runtimeNames, runtimePackage.isDeclared n = true := by decide +kernel
  exact hall n hn

/-- All names of the runtime can be reserved. -/
theorem reserve_runtimeNames :
    (Package.empty.withInclude runtimeInclude).reserve runtimeNames = (runtimePackage, .ok ()) := by
  have hfind : (runtimeNames.find? fun n =>
      ((Package.empty.withInclude runtimeInclude).lookup n).isSome) = none := by decide +kernel
  have hresult := (wellFormed_withRuntime.reserve runtimeNames).2.2.2
  rw [hfind] at hresult
  exact Prod.ext rfl hresult

/-- A package is drafted from the one with the runtime, whose names can all be reserved. -/
theorem draftPackage_eq (depth : Option Int) (api : Model) (notes : List String) :
    (draftPackage depth api).run ⟨Package.empty, notes⟩ =
      (draftDefinitions depth api).run ⟨runtimePackage, notes⟩ := by
  rw [draftPackage, Steps.run_bind_of_ok (Drafting.run_change _),
    Steps.run_bind_of_ok Drafting.run_package]
  dsimp only
  rw [reserve_runtimeNames, Steps.run_bind_of_ok (Drafting.run_change _),
    Steps.run_bind_of_ok (Drafting.run_orError_eq_ok.2 ⟨rfl, rfl⟩)]

/-- What is drafted for an API if it can be: the package with the runtime grows by the stages of a
client. -/
theorem draftPackage_eq_ok {depth : Option Int} {api : Model} {notes : List String} {d' : Draft}
    {u : Unit} (h : (draftPackage depth api).run ⟨Package.empty, notes⟩ = .ok u d') :
    ∃ c : ClientStages, c.Drafted depth api runtimePackage d'.package := by
  rw [draftPackage_eq] at h
  exact draftDefinitions_eq_ok wellFormed_runtimePackage files_runtimePackage h

end RamlClient.Client
