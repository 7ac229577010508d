import RamlClient.Proofs.ClientDraft
/-!
# Fields of structs

The structs for declared types and for payloads never have a field twice, as a property whose field
is there already is left out. A struct of query parameters has one field for each parameter of the
method and its traits, so it has a field twice exactly if two of their names give one identifier.
-/

namespace RamlClient.Client

open Api Go

/-- No two fields of a struct have one name. -/
def FieldsDistinct (s : Struct) : Prop := (s.fields.map (·.name)).Nodup

instance (s : Struct) : Decidable (FieldsDistinct s) :=
  inferInstanceAs (Decidable (s.fields.map (·.name)).Nodup)

/-- The identifiers of the query parameters of a method and its traits. -/
def queryIdentifiers (m : Method) : List String :=
  m.allQueryParameters.map fun q => exportedName q.name

/-- No two query parameters of a method and its traits have one identifier. -/
def QueryDistinct (m : Method) : Prop := (queryIdentifiers m).Nodup

instance (m : Method) : Decidable (QueryDistinct m) :=
  inferInstanceAs (Decidable (queryIdentifiers m).Nodup)

/-- The fields of the struct for a declaration are different. -/
theorem structFor_fieldsDistinct (api : Model) (name : String) (t : TypeDeclaration) :
    FieldsDistinct (structFor api name t) :=
  structFor_fields_nodup api name t

/-- The fields for query parameters are different if the parameters' names are. -/
theorem paramsStruct_fieldsDistinct {name : String} {m : Method} :
    FieldsDistinct (paramsStruct name m.allQueryParameters) ↔ QueryDistinct m := by
  simp [FieldsDistinct, QueryDistinct, queryIdentifiers, paramsStruct, queryField,
    Function.comp_def]

/-- The structs of an operation: the one of its query parameters and the one for its payload. -/
theorem MethodParts.IsNew.struct_mem {api : Model} {x : MethodParts}
    (h : x.IsNew api) {s : Struct} :
    Definition.struct s ∈ x.definitions → FieldsDistinct s ∨
      s = paramsStruct x.name x.method.allQueryParameters ∧ x.method.allQueryParameters ≠ [] := by
  intro hs
  rcases List.mem_cons.1 hs with hs | hs
  · cases hs
  rcases List.mem_append.1 hs with hs | hs
  · rw [h.params] at hs
    split at hs
    · cases hs
    · rename_i hne
      exact .inr ⟨Definition.struct.inj (List.mem_singleton.1 hs), by simpa using hne⟩
  · obtain hnil | ⟨body, -, hpayload⟩ := h.payloads
    · rw [hnil] at hs
      cases hs
    · rw [hpayload] at hs
      obtain rfl := Definition.struct.inj (List.mem_singleton.1 hs)
      exact .inl (structFor_fieldsDistinct api _ _)

/-- The fields of the struct for a declared type are different. -/
theorem IsModel.fieldsDistinct {api : Model} {t : TypeDeclaration} {s : Struct}
    (h : IsModel api t (.struct s)) : FieldsDistinct s := by
  obtain ⟨isObject, -, hs⟩ := h
  cases isObject with
  | true =>
    obtain rfl := Definition.struct.inj hs
    exact structFor_fieldsDistinct api _ t
  | false => cases hs

/-- The structs of a client: each has distinct fields or holds the query parameters of an operation,
and every operation with query parameters has such a struct. -/
theorem ClientStages.Drafted.structs {depth : Option Int} {api : Model} {p q : Package}
    {c : ClientStages} (h : c.Drafted depth api p q) :
    (∀ s, .struct s ∈ q.definitions → FieldsDistinct s ∨ ∃ o ∈ api.operations, ∃ name,
      configuredName o.1 o.2 depth = .ok name ∧ s = paramsStruct name o.2.allQueryParameters) ∧
    ∀ o ∈ api.operations, o.2.allQueryParameters ≠ [] → ∃ name,
      .struct (paramsStruct name o.2.allQueryParameters) ∈ q.definitions := by
  constructor
  · intro s hs
    obtain hs | hs := h.mem_definitions.1 hs
    · obtain ⟨t, -, ht⟩ := h.exists_type hs
      exact .inl ht.fieldsDistinct
    · rcases List.mem_cons.1 hs with hs | hs
      · cases hs
      obtain ⟨x, hx, hs⟩ := List.mem_flatMap.1 hs
      obtain ⟨_, _, hdrafted⟩ := h.methods.of_mem hx
      apply ((h.isNew x hx).struct_mem hs).imp_right
      intro hparams
      exact ⟨x.operation, h.methods.operation_mem hx, x.name, hdrafted.name, hparams.1⟩
  · intro o ho hne
    obtain ⟨x, hx, rfl⟩ := h.methods.mem_operations_iff.1 ho
    refine ⟨x.name, h.mem_definitions.2 (.inr (List.mem_cons_of_mem _ ?_))⟩
    exact List.mem_flatMap.2 ⟨x, hx, (h.isNew x hx).params_mem hne⟩

/-- The structs of a client have distinct fields, but for the structs of query parameters; and all
of them have exactly if no operation has two query parameters, its own or those of its traits, with
one identifier. -/
theorem fieldsDistinct_iff {names notes : List String} {depth : Option Int} {api : Model} {u : Unit}
    {d' : Draft} (h : (draftDefinitions depth api).run ⟨(Package.empty.reserve names).1, notes⟩ =
      .ok u d') :
    (∀ f ∈ d'.package.files, ∀ s ∈ f.structs, FieldsDistinct s ∨ ∃ o ∈ api.operations, ∃ name,
      configuredName o.1 o.2 depth = .ok name ∧ s = paramsStruct name o.2.allQueryParameters) ∧
    ((∀ f ∈ d'.package.files, ∀ s ∈ f.structs, FieldsDistinct s) ↔
      ∀ o ∈ api.operations, QueryDistinct o.2) := by
  obtain ⟨c, hc⟩ := draftDefinitions_reserved_eq_ok h
  obtain ⟨hstructs, hparams⟩ := hc.structs
  have hdefs {s : Struct} : .struct s ∈ d'.package.definitions ↔
      ∃ f ∈ d'.package.files, s ∈ f.structs := by
    simp [Package.definitions, File.definitions]
  refine ⟨fun f hf s hs => hstructs s (hdefs.2 ⟨f, hf, hs⟩), ?_, ?_⟩
  · intro hall o ho
    by_cases hne : o.2.allQueryParameters = []
    · simp [QueryDistinct, queryIdentifiers, hne]
    · obtain ⟨name, hmem⟩ := hparams o ho hne
      obtain ⟨f, hf, hs⟩ := hdefs.1 hmem
      exact paramsStruct_fieldsDistinct.1 (hall f hf _ hs)
  · intro hall f hf s hs
    obtain hdistinct | ⟨o, ho, name, -, rfl⟩ := hstructs s (hdefs.2 ⟨f, hf, hs⟩)
    · exact hdistinct
    · exact paramsStruct_fieldsDistinct.2 (hall o ho)

/-- A document with a trait that is applied to a method, and others that are applied to its
resource. -/
def pagedDocument (more : List Value) : List (Value × Value) :=
  [(.text "title", .text "T"),
   (.text "traits", .mapping [(.text "paged", .mapping
     [(.text "queryParameters", .mapping [(.text "limit", .text "integer")])])]),
   (.text "/items", .mapping
     [(.text "is", .list more),
      (.text "get", .mapping [(.text "is", .list [.text "paged"])])])]

/-- A trait that is applied once gives structs with distinct fields. -/
theorem fieldsDistinct_paged : ∃ api d', buildModel (pagedDocument []) = .ok api ∧
    (draftDefinitions (some 0) api).run ⟨(Package.empty.reserve ["Client"]).1, []⟩ = .ok () d' ∧
    (d'.package.files.any fun f => f.hasStruct "GetItemsParams") = true ∧
    ∀ f ∈ d'.package.files, ∀ s ∈ f.structs, FieldsDistinct s := by
  have hany : (draftedPackage? ["Client"] (some 0) (pagedDocument [])).any (fun p =>
      p.files.any fun f => f.hasStruct "GetItemsParams") = true := by
    decide +kernel
  obtain ⟨p, hp, hthere⟩ := (Option.any_eq_true _ _).1 hany
  obtain ⟨api, d', hapi, hrun, rfl⟩ := draftedPackage?_eq_some hp
  have hquery : (buildModel (pagedDocument [])).toOption.all (fun api =>
      api.operations.all fun o => decide (QueryDistinct o.2)) = true := by
    decide +kernel
  simp only [hapi, Except.toOption, Option.all_some, List.all_eq_true, decide_eq_true_eq] at hquery
  exact ⟨api, d', hapi, hrun, hthere, (fieldsDistinct_iff hrun).2.2 hquery⟩

/-- A trait that is applied to a resource and to its method gives a struct with a field twice. -/
theorem not_fieldsDistinct_paged : ∃ api d', buildModel (pagedDocument [.text "paged"]) = .ok api ∧
    (draftDefinitions (some 0) api).run ⟨Package.empty, []⟩ = .ok () d' ∧
    ∃ f ∈ d'.package.files, ∃ s ∈ f.structs, ¬FieldsDistinct s := by
  have hany : (draftedPackage? [] (some 0) (pagedDocument [.text "paged"])).any (fun p =>
      p.files.any fun f => f.structs.any fun s => !decide (FieldsDistinct s)) = true := by
    decide +kernel
  obtain ⟨p, hp, htwice⟩ := (Option.any_eq_true _ _).1 hany
  obtain ⟨api, d', hapi, hrun, rfl⟩ := draftedPackage?_eq_some hp
  obtain ⟨f, hf, htwice⟩ := List.any_eq_true.1 htwice
  obtain ⟨s, hs, htwice⟩ := List.any_eq_true.1 htwice
  exact ⟨api, d', hapi, hrun, f, hf, s, hs, by simpa using htwice⟩

end RamlClient.Client
