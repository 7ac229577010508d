import RamlClient.Proofs.Redeclarations
/-!
# What declared types become in a file that is not empty

A file may have definitions before the declared types of an API are drafted into it. A type whose
identifier is that of a struct or a type definition of the file is passed over, and so is every type
after the first of its identifier: what is left are the new types. Each of them becomes a struct or
a type definition, as it is an object or not, and nothing else changes. So a second run finds all
identifiers there and does nothing.
-/

namespace RamlClient.Client

open Api Go

/-! ### New members -/

/-- Whether a member is new depends only on which names there were. -/
theorem newMembers_congr {α : Type} (name : α → String) {names names' : List String}
    (h : ∀ n, n ∈ names ↔ n ∈ names') (as : List α) :
    newMembers name names as = newMembers name names' as := by
  induction as generalizing names names' with
  | nil => rfl
  | cons a r ih =>
    have hmore : ∀ n, n ∈ names ++ [name a] ↔ n ∈ names' ++ [name a] := by
      intro n
      rw [List.mem_append, List.mem_append, h]
    unfold newMembers
    simp only [h, ih h, ih hmore]

/-! ### One type -/

variable {path : String} {api : Model} {t : TypeDeclaration} {d d' : Draft} {f : File}
  {packages : List String}

/-- A type is drafted into one file. -/
theorem file?_of_generateModel {other : String} (hf : d.package.file? path = some f)
    (hnew : exportedName t.name ∉ f.typeNames)
    (h : (generateModel path api t).run d = .ok packages d') (hother : other ≠ path) :
    d'.package.file? other = d.package.file? other := by
  obtain ⟨-, -, rfl⟩ := (generateModel_eq_ok_iff hf hnew).1 h
  split
  · rw [structDraft, Package.file?_updateFile _ _ (by exact fun _ => rfl), if_neg hother,
      Package.file?_insert, if_neg hother]
  · exact (Package.file?_insert _ _ _ _).trans (if_neg hother)

/-- A definition that cannot be declared has a name that is declared already. -/
theorem isDeclared_of_declare_eq_error {p : Package} {x : Definition} {e : Error}
    (hf : p.file? path = some f) (h : p.declare path x = .error e) :
    e = .duplicateIdentifier x.name ∧ p.isDeclared x.name = true := by
  rw [Package.declare, Package.withFile_of_file? hf] at h
  simp only [hf, Option.any_some, Package.claim_eq] at h
  split at h
  · cases h
  split at h
  · cases h
  · rename_i hfree
    cases h
    refine ⟨rfl, ?_⟩
    unfold Package.isFree at hfree
    unfold Package.isDeclared
    cases hentry : p.entryOf? x.name with
    | none => simp [hentry] at hfree
    | some _ => rfl

/-- A change that fails gives its error. -/
theorem run_attempt_eq_error {change : Package → Except Error Package} {e : Failure}
    (h : (Drafting.attempt change).run d = .error e d') :
    ∃ e', change d.package = .error e' ∧ e = .error e' := by
  rw [Drafting.attempt, Steps.run_bind_of_ok Drafting.run_package] at h
  cases hchange : change d.package with
  | ok q =>
    rw [hchange] at h
    cases h
  | error e' =>
    rw [hchange] at h
    cases h
    exact ⟨e', rfl, rfl⟩

/-- A struct that is refused for its name has one that is declared already: one that can be declared
is there or has a free name. -/
theorem isDeclared_of_generateStruct {name n : String} (hf : d.package.file? path = some f)
    (h : (generateStruct path api name t).run d = .error (.error (.duplicateIdentifier n)) d') :
    n = name ∧ d.package.isDeclared n = true := by
  have hcannot : ¬d.package.CanHaveStruct path name := by
    intro hcan
    obtain ⟨chain, -, he⟩ := (run_generateStruct_eq_error_iff hcan).1 ⟨d', h⟩
    cases he
  cases hdeclare : d.package.declareStruct path name with
  | ok q =>
    refine absurd ?_ hcannot
    by_cases hs : (f.struct? name).isSome
    · refine .inl ?_
      rwa [Package.struct?_of_file? hf]
    · refine .inr ?_
      have hnone : f.definition? (Definition.struct ⟨name, []⟩).kind name = none := by
        simpa [File.definition?] using hs
      exact ((Package.declare_eq_ok_iff (d := .struct ⟨name, []⟩) hf hnone).1 hdeclare).1
  | error e =>
    rw [generateStruct] at h
    have hattempt : (Drafting.attempt fun p => p.declareStruct path name).run d =
      .error (.error e) d := by
      rw [Drafting.attempt, Steps.run_bind_of_ok Drafting.run_package, hdeclare]
      rfl
    rw [Steps.run_bind_of_error hattempt] at h
    cases h
    obtain ⟨he, hdeclared⟩ := isDeclared_of_declare_eq_error hf hdeclare
    cases he
    exact ⟨rfl, hdeclared⟩

/-- A type that is refused for its name is new, and its identifier is declared already. -/
theorem isDeclared_of_generateModel {n : String} (hf : d.package.file? path = some f)
    (h : (generateModel path api t).run d = .error (.error (.duplicateIdentifier n)) d') :
    exportedName t.name = n ∧ n ∉ f.typeNames ∧ d.package.isDeclared n = true := by
  have hnew : exportedName t.name ∉ f.typeNames := by
    intro hthere
    rw [run_generateModel_of_mem hf hthere] at h
    cases h
  rw [run_generateModel_of_notMem hf hnew, Steps.run_bind_eq_error] at h
  rcases h with h | ⟨isObject, _, hobject, h⟩
  · -- whether a type is an object is told, or else there is a cycle
    cases hobject : isObjectType api t with
    | ok b =>
      rw [hobject] at h
      cases h
    | error e =>
      obtain ⟨chain, -, rfl⟩ := isObjectType_eq_error hobject
      rw [hobject] at h
      cases h
  obtain ⟨-, rfl⟩ := Drafting.run_orError_eq_ok.1 hobject
  cases isObject with
  | true =>
    rw [if_pos rfl] at h
    obtain ⟨hname, hdeclared⟩ := isDeclared_of_generateStruct hf h
    rw [hname] at hdeclared ⊢
    exact ⟨rfl, hnew, hdeclared⟩
  | false =>
    rw [if_neg Bool.false_ne_true, Steps.run_bind_eq_error] at h
    rcases h with h | ⟨_, _, -, h⟩
    · obtain ⟨e, he, hn⟩ := run_attempt_eq_error h
      have hrefused := isDeclared_of_declare_eq_error
        (x := .typeDef ⟨exportedName t.name, typeText t.descriptor⟩) hf he
      simp only [Definition.name_typeDef] at hrefused
      rw [hrefused.1, Failure.error.injEq, Error.duplicateIdentifier.injEq] at hn
      rw [hn]
      exact ⟨rfl, hnew, hrefused.2⟩
    · rw [EStateM.run_pure] at h
      cases h

/-! ### All types -/

/-- The declared types that are new in a file: the first ones of the identifiers that no struct and
no type definition of the file has. -/
def newTypes (f : File) (ts : List TypeDeclaration) : List TypeDeclaration :=
  newMembers (fun t => exportedName t.name) f.typeNames ts

/-- The new types are the first ones of their identifiers among declared types. -/
theorem mem_newTypes_iff {ts : List TypeDeclaration} : t ∈ newTypes f ts ↔
    ts.find? (fun s => exportedName s.name == exportedName t.name) = some t ∧
      exportedName t.name ∉ f.typeNames := by
  unfold newTypes
  rw [mem_newMembers_iff, and_comm]

/-- A type that is there already is not new. -/
theorem newTypes_cons_of_mem (ts : List TypeDeclaration)
    (hthere : exportedName t.name ∈ f.typeNames) :
    newTypes f (t :: ts) = newTypes f ts := by
  unfold newTypes
  rw [newMembers, if_pos hthere]

/-- After a new type, the types that are new are those that are new beside its definition. -/
theorem newTypes_cons_of_notMem (api : Model) (ts : List TypeDeclaration)
    (hnew : exportedName t.name ∉ f.typeNames) :
    newTypes f (t :: ts) = t :: newTypes (f.add (modelOf api t)) ts := by
  have hnames : ∀ n, n ∈ f.typeNames ++ [exportedName t.name] ↔
    n ∈ (f.add (modelOf api t)).typeNames := by
    intro n
    rw [File.mem_typeNames_add, name_modelOf, List.mem_append, List.mem_singleton,
      and_iff_right (kind_modelOf api t)]
  unfold newTypes
  rw [newMembers, if_neg hnew, newMembers_congr _ hnames]

/-- The second package is the first one with the definitions of the new ones among declared
types. -/
structure Classifies (path : String) (api : Model) (f : File) (ts : List TypeDeclaration)
    (p q : Package) : Prop where
  /-- The file has the definitions of the new types. -/
  file : q.file? path = some (f.addAll ((newTypes f ts).map (modelOf api)))
  /-- It can be told of each new type whether it is an object. -/
  isObjectType : ∀ t ∈ newTypes f ts, isObjectType api t = .ok (isObject api t)
  /-- All other files stay as they are. -/
  other : ∀ other, other ≠ path → q.file? other = p.file? other
  /-- All other names are what they were. -/
  entry : ∀ n, (∀ t ∈ newTypes f ts, exportedName t.name ≠ n) → q.entryOf? n = p.entryOf? n

/-- What a run that drafts declared types does: the induction is on the types, and the file grows on
the way. -/
theorem classifies_of_mapM {ts : List TypeDeclaration} {packages : List (List String)}
    (hf : d.package.file? path = some f)
    (h : (ts.mapM (generateModel path api)).run d = .ok packages d') :
    Classifies path api f ts d.package d'.package ∧
      packages.flatten = (newTypes f ts).flatMap (packagesOf api) := by
  induction ts generalizing d f packages with
  | nil =>
    obtain ⟨rfl, rfl⟩ := Steps.run_mapM_nil_eq_ok.1 h
    exact ⟨⟨hf, nofun, fun _ _ => rfl, fun _ _ => rfl⟩, rfl⟩
  | cons t rest ih =>
    obtain ⟨first, e, others, hrun, hrest, rfl⟩ := Steps.run_mapM_cons_eq_ok.1 h
    by_cases hthere : exportedName t.name ∈ f.typeNames
    · rw [run_generateModel_of_mem hf hthere] at hrun
      cases hrun
      obtain ⟨hall, hpackages⟩ := ih hf hrest
      unfold List.flatten
      refine ⟨⟨?_, ?_, hall.other, ?_⟩, ?_⟩
      all_goals rw [newTypes_cons_of_mem rest hthere]
      · exact hall.file
      · exact hall.isObjectType
      · exact hall.entry
      · exact hpackages
    · have hadds := generateModel_adds hf hthere hrun
      obtain ⟨hdeclarable, hfirst, -⟩ := (generateModel_eq_ok_iff hf hthere).1 hrun
      obtain ⟨hall, hpackages⟩ := ih hadds.file hrest
      have hcons := newTypes_cons_of_notMem api rest hthere
      refine ⟨⟨?_, ?_, ?_, ?_⟩, ?_⟩
      · rw [hcons]
        exact hall.file
      · rw [hcons, List.forall_mem_cons]
        exact ⟨hdeclarable.isObjectType, hall.isObjectType⟩
      · intro other hother
        rw [hall.other other hother, file?_of_generateModel hf hthere hrun hother]
      · intro n hn
        rw [hcons, List.forall_mem_cons] at hn
        rw [hall.entry n hn.2]
        apply hadds.entry
        rw [name_modelOf]
        exact hn.1.symm
      · rw [hcons, List.flatten_cons, hpackages, hfirst, List.flatMap_cons]

/-- A run that is refused for a name has met a new type of this identifier, which was declared
before: no earlier type of the run has declared the name of a new one. -/
theorem isDeclared_of_mapM {ts : List TypeDeclaration} {n : String}
    (hf : d.package.file? path = some f)
    (h : (ts.mapM (generateModel path api)).run d = .error (.error (.duplicateIdentifier n)) d') :
    ∃ t ∈ newTypes f ts, exportedName t.name = n ∧ d.package.isDeclared n = true := by
  induction ts generalizing d f with
  | nil => cases h
  | cons t rest ih =>
    rw [List.mapM_cons, Steps.run_bind_eq_error] at h
    rcases h with h | ⟨first, e, hrun, h⟩
    · obtain ⟨hname, hnew, hdeclared⟩ := isDeclared_of_generateModel hf h
      rw [← hname] at hnew
      rw [newTypes_cons_of_notMem api rest hnew]
      exact ⟨t, List.mem_cons_self, hname, hdeclared⟩
    rw [Steps.run_bind_eq_error] at h
    rcases h with h | ⟨_, _, -, h⟩
    · by_cases hthere : exportedName t.name ∈ f.typeNames
      · rw [run_generateModel_of_mem hf hthere] at hrun
        cases hrun
        rw [newTypes_cons_of_mem rest hthere]
        exact ih hf h
      · have hadds := generateModel_adds hf hthere hrun
        obtain ⟨s, hs, hname, hdeclared⟩ := ih hadds.file h
        rw [newTypes_cons_of_notMem api rest hthere]
        refine ⟨s, List.mem_cons_of_mem t hs, hname, ?_⟩
        have hnew := (newMembers_names _ _ rest).2 s hs
        rw [File.mem_typeNames_add, name_modelOf, not_or, not_and] at hnew
        have hne : n ≠ (modelOf api t).name := by
          rw [name_modelOf, ← hname]
          exact hnew.2 (kind_modelOf api t)
        unfold Package.isDeclared at hdeclared ⊢
        rwa [hadds.entry n hne] at hdeclared
    · cases h

/-- A second run passes over all types. -/
theorem run_mapM_of_mem {ts : List TypeDeclaration} (hf : d.package.file? path = some f)
    (hthere : ∀ t ∈ ts, exportedName t.name ∈ f.typeNames) :
    (ts.mapM (generateModel path api)).run d = .ok (ts.map fun _ => []) d := by
  induction ts with
  | nil => rfl
  | cons t rest ih =>
    rw [List.forall_mem_cons] at hthere
    exact Steps.run_mapM_cons_eq_ok.2
      ⟨[], d, _, run_generateModel_of_mem hf hthere.1, ih hthere.2, rfl⟩

/-- The names of types after definitions are added. -/
theorem mem_typeNames_addAll {ds : List Definition} {n : String} :
    n ∈ (f.addAll ds).typeNames ↔ n ∈ f.typeNames ∨ ∃ x ∈ ds, x.kind ≠ .func ∧ n = x.name := by
  induction ds generalizing f with
  | nil => simp
  | cons x rest ih =>
    have hcons : f.addAll (x :: rest) = (f.add x).addAll rest := rfl
    rw [hcons, ih, File.mem_typeNames_add]
    simp [or_assoc]

/-- Every declared type has its identifier in the file after a run. -/
theorem mem_typeNames_of_mem_types {ts : List TypeDeclaration} (ht : t ∈ ts) (xs : List String) :
    exportedName t.name ∈
      ((f.addAll ((newTypes f ts).map (modelOf api))).addImports xs).typeNames := by
  change _ ∈ (f.addAll ((newTypes f ts).map (modelOf api))).typeNames
  rw [mem_typeNames_addAll]
  rcases name_mem_newMembers (fun t => exportedName t.name) f.typeNames ht with hold | hnew
  · exact .inl hold
  · obtain ⟨s, hs, hname⟩ := List.mem_map.1 hnew
    refine .inr ⟨modelOf api s, List.mem_map_of_mem hs, kind_modelOf api s, ?_⟩
    rw [name_modelOf, hname]

/-- The structs among the definitions of declared types are those for objects. -/
theorem filterMap_struct?_modelOf (api : Model) (ts : List TypeDeclaration) :
    (ts.map (modelOf api)).filterMap Definition.struct? =
      (ts.filter (isObject api)).map fun t => structFor api (exportedName t.name) t := by
  induction ts with
  | nil => rfl
  | cons t rest ih =>
    rw [List.map_cons, List.filterMap_cons, ih, modelOf]
    cases hobject : isObject api t with
    | true => simp [hobject, modelDefinition, Definition.struct?]
    | false => simp [hobject, modelDefinition, Definition.struct?]

/-- The type definitions among the definitions of declared types are those for all other types. -/
theorem filterMap_typeDef?_modelOf (api : Model) (ts : List TypeDeclaration) :
    (ts.map (modelOf api)).filterMap Definition.typeDef? =
      (ts.filter fun t => !isObject api t).map fun t =>
        ⟨exportedName t.name, typeText t.descriptor⟩ := by
  induction ts with
  | nil => rfl
  | cons t rest ih =>
    rw [List.map_cons, List.filterMap_cons, ih, modelOf]
    cases hobject : isObject api t with
    | true => simp [hobject, modelDefinition, Definition.typeDef?]
    | false => simp [hobject, modelDefinition, Definition.typeDef?]

/-- No function is the definition of a declared type. -/
theorem filterMap_func?_modelOf (api : Model) (ts : List TypeDeclaration) :
    (ts.map (modelOf api)).filterMap Definition.func? = [] := by
  rw [List.filterMap_eq_nil_iff]
  intro x hx
  obtain ⟨t, -, rfl⟩ := List.mem_map.1 hx
  unfold modelOf modelDefinition
  cases isObject api t <;> rfl

/-- What a run for all declared types of an API does. -/
theorem classifies_of_generateModels {u : Unit} (hf : d.package.file? path = some f)
    (h : (generateModels path api).run d = .ok u d') :
    ∃ e : Draft, Classifies path api f api.types d.package e.package ∧
      d' = { e with package := e.package.updateFile path fun g =>
        g.addImports ((newTypes f api.types).flatMap (packagesOf api)) } := by
  obtain ⟨packages, e, hrun, rfl⟩ := run_generateModels_eq_ok_iff.1 h
  obtain ⟨hall, hpackages⟩ := classifies_of_mapM hf hrun
  exact ⟨e, hall, by rw [hpackages]⟩

/-- A run does nothing if all identifiers of declared types are there. -/
theorem run_generateModels_of_mem (hf : d.package.file? path = some f)
    (hthere : ∀ t ∈ api.types, exportedName t.name ∈ f.typeNames) :
    (generateModels path api).run d = .ok () d := by
  have hnone : (api.types.map fun _ => ([] : List String)).flatten = [] := by simp
  have hidle : d.package.updateFile path (·.addImports []) = d.package := by
    simp [Package.updateFile, File.addImports]
  rw [generateModels, Steps.run_bind_of_ok (run_mapM_of_mem hf hthere), hnone,
    Drafting.run_addImports, hidle]

/-- Each declared type is drafted once, as what it is. A file may have definitions, and any names
may be declared. The new types are the first ones of their identifiers among the declared types, in
their order, without those whose identifier a struct or a type definition of the file has. If all
goes well, the file has what it had before, then a struct for each new type that is an object and a
type definition by its own type for each that is none, and no other file and no other name has
changed; doing it again changes nothing. If a name is refused, it is that of a new type and was
declared before. -/
theorem generateModels_classifies (hf : d.package.file? path = some f) :
    ((∀ t, t ∈ newTypes f api.types ↔
        api.types.find? (fun s => exportedName s.name == exportedName t.name) = some t ∧
          exportedName t.name ∉ f.typeNames) ∧
      (newTypes f api.types).Sublist api.types ∧
      ((newTypes f api.types).map fun t => exportedName t.name).Nodup) ∧
    (∀ d', (generateModels path api).run d = .ok () d' →
      (∃ g, d'.package.file? path = some g ∧
        g.structs = f.structs ++
          ((newTypes f api.types).filter (isObject api)).map
            (fun t => structFor api (exportedName t.name) t) ∧
        g.typeDefs = f.typeDefs ++
          ((newTypes f api.types).filter fun t => !isObject api t).map
            (fun t => ⟨exportedName t.name, typeText t.descriptor⟩) ∧
        g.funcs = f.funcs) ∧
      (∀ t ∈ newTypes f api.types, isObjectType api t = .ok (isObject api t)) ∧
      (∀ other, other ≠ path → d'.package.file? other = d.package.file? other) ∧
      (∀ n, (∀ t ∈ newTypes f api.types, exportedName t.name ≠ n) →
        d'.package.entryOf? n = d.package.entryOf? n) ∧
      (generateModels path api).run d' = .ok () d') ∧
    ∀ n d', (generateModels path api).run d = .error (.error (.duplicateIdentifier n)) d' →
      n ∉ f.typeNames ∧ d.package.isDeclared n = true ∧
        ∃ t ∈ newTypes f api.types, exportedName t.name = n := by
  have hnames := newMembers_names (fun t => exportedName t.name) f.typeNames api.types
  refine ⟨⟨fun t => mem_newTypes_iff, newMembers_sublist _ _ _, hnames.1⟩, ?_, ?_⟩
  · intro d' h
    obtain ⟨e, hall, rfl⟩ := classifies_of_generateModels hf h
    have hpath (g : File) : (g.addImports ((newTypes f api.types).flatMap (packagesOf api))).path =
      g.path :=
      rfl
    have hfile := (Package.file?_updateFile e.package path hpath path).trans (if_pos rfl)
    rw [hall.file, Option.map_some] at hfile
    refine ⟨⟨_, hfile, ?_, ?_, ?_⟩, hall.isObjectType, ?_, hall.entry, ?_⟩
    · rw [← filterMap_struct?_modelOf]
      exact File.structs_addAll _ _
    · rw [← filterMap_typeDef?_modelOf]
      exact File.typeDefs_addAll _ _
    · apply (File.funcs_addAll _ _).trans
      rw [filterMap_func?_modelOf, List.append_nil]
    · intro other hother
      rw [Package.file?_updateFile _ _ (by exact fun _ => rfl), if_neg hother,
        hall.other other hother]
    · exact run_generateModels_of_mem hfile fun t ht => mem_typeNames_of_mem_types ht _
  · intro n d' h
    rw [generateModels, Steps.run_bind_eq_error] at h
    rcases h with h | ⟨_, _, -, h⟩
    · obtain ⟨t, ht, rfl, hdeclared⟩ := isDeclared_of_mapM hf h
      exact ⟨hnames.2 t ht, hdeclared, t, ht, rfl⟩
    · rw [Drafting.run_addImports] at h
      cases h

/-- A package with a reserved name and a file that has a type definition. -/
def stockedDraft : Draft :=
  ⟨petDraft.package.insert "models.go" (.typeDef ⟨"Chip", "string"⟩), []⟩

/-- An API that declares an object, one that inherits from it, a type that is there already and a
second type of an identifier. -/
def kennelApi : Model :=
  petApi [animalType, dogType, chipType, ⟨"Dog", [], [], ⟨"integer", true, none, []⟩⟩]

/-- An API that declares a type whose identifier is reserved. -/
def clientApi : Model := petApi [⟨"client", [], [], ⟨"string", true, none, []⟩⟩]

/-- Whether a step is refused for a name. -/
def isRefused {α : Type} (x : Drafting α) (d : Draft) (n : String) : Bool :=
  match x.run d with
  | .error (.error (.duplicateIdentifier m)) _ => m == n
  | _ => false

/-- A step that is refused for a name ends with the error for it. -/
theorem exists_run_of_isRefused {α : Type} {x : Drafting α} {n : String}
    (h : isRefused x d n = true) :
    ∃ d', x.run d = .error (.error (.duplicateIdentifier n)) d' := by
  unfold isRefused at h
  split at h
  · rename_i hrun
    rw [beq_iff_eq] at h
    rw [hrun, h]
    exact ⟨_, rfl⟩
  · cases h

/-- What is there stays, and the second type of an identifier is passed over; a reserved name is
refused. -/
theorem generateModels_classifies_stocked :
    (∃ d' g, (generateModels "models.go" kennelApi).run stockedDraft = .ok () d' ∧
      d'.package.file? "models.go" = some g ∧ g.structs.map (·.name) = ["Animal", "Dog"] ∧
      g.typeDefs = [⟨"Chip", "string"⟩] ∧
      (generateModels "models.go" kennelApi).run d' = .ok () d') ∧
    ∃ d', (generateModels "models.go" clientApi).run stockedDraft =
        .error (.error (.duplicateIdentifier "Client")) d' ∧
      stockedDraft.package.isDeclared "Client" = true := by
  have hf : stockedDraft.package.file? "models.go" =
      some ((File.empty "models.go").add (.typeDef ⟨"Chip", "string"⟩)) := by decide +kernel
  have hnew : newTypes ((File.empty "models.go").add (.typeDef ⟨"Chip", "string"⟩))
      kennelApi.types = [animalType, dogType] := by decide +kernel
  constructor
  · have hsucceeds : (generateModels "models.go" kennelApi).succeeds stockedDraft = true := by
      simp only [generateModels, generateModel, isObjectType, generateStruct, lineage_eq_upTo,
        show kennelApi.types = [animalType, dogType, chipType,
          ⟨"Dog", [], [], ⟨"integer", true, none, []⟩⟩] from rfl, List.mapM_cons, List.mapM_nil]
      decide +kernel
    obtain ⟨_, d', h⟩ := Drafting.exists_run_of_succeeds hsucceeds
    obtain ⟨⟨g, hg, hstructs, htypeDefs, -⟩, -, -, -, hagain⟩ :=
      (generateModels_classifies hf).2.1 d' h
    have hobject : ∀ t ∈ [animalType, dogType], isObject kennelApi t = true := by
      unfold isObject isObjectType
      simp only [lineage_eq_upTo]
      decide +kernel
    rw [hnew, List.filter_eq_self.2 hobject] at hstructs
    rw [hnew, List.filter_eq_nil_iff.2 fun t ht => by simp [hobject t ht]] at htypeDefs
    refine ⟨d', g, h, hg, ?_, ?_, hagain⟩
    · rw [hstructs, List.map_append, List.map_map]
      decide +kernel
    · rw [htypeDefs]
      rfl
  · have hrefused : isRefused (generateModels "models.go" clientApi) stockedDraft "Client" =
      true := by
      simp only [generateModels, generateModel, isObjectType, generateStruct, lineage_eq_upTo,
        show clientApi.types = [⟨"client", [], [], ⟨"string", true, none, []⟩⟩] from rfl,
        List.mapM_cons, List.mapM_nil]
      decide +kernel
    obtain ⟨d', h⟩ := exists_run_of_isRefused hrefused
    obtain ⟨-, hdeclared, -⟩ := (generateModels_classifies hf).2.2 "Client" d' h
    exact ⟨d', h, hdeclared⟩

end RamlClient.Client
