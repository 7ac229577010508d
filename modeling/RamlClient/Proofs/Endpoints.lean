import RamlClient.Proofs.Operations
import RamlClient.Proofs.Registry
/-!
# One function for each operation

The file for the operations of an API gets a function for the default base address and then one for
each operation, in the order of the resources. Their names are new, so no function is ever extended
by a second operation: an operation whose name is taken fails before it changes anything.
-/

namespace RamlClient.Client

open Api Go

/-! ### Rows of operations -/

/-- The second package is the first one with the definitions for operations. -/
structure MethodsDrafted (path : String) (api : Model) (depth : Option Int)
    (operations : List (Resource × Method)) (p q : Package) (xs : List MethodParts) : Prop where
  /-- Every operation has its parts. -/
  operations : xs.map MethodParts.operation = operations
  /-- An operation is drafted when those before it are there. -/
  drafted : ∀ pre x post, xs = pre ++ x :: post → ∃ p' q',
    Appends path (pre.flatMap MethodParts.imports) (pre.flatMap MethodParts.definitions) p p' ∧
      x.Drafted path api depth p' q'
  /-- All definitions are appended. -/
  appends : Appends path (xs.flatMap MethodParts.imports) (xs.flatMap MethodParts.definitions) p q

/-- Each of the parts is that of a method that has been drafted. -/
theorem MethodsDrafted.of_mem {path : String} {api : Model} {depth : Option Int}
    {operations : List (Resource × Method)} {p q : Package} {xs : List MethodParts}
    (h : MethodsDrafted path api depth operations p q xs) {x : MethodParts} (hx : x ∈ xs) :
    ∃ p' q', x.Drafted path api depth p' q' := by
  obtain ⟨pre, post, hsplit⟩ := List.append_of_mem hx
  obtain ⟨p', q', -, hdrafted⟩ := h.drafted pre x post hsplit
  exact ⟨p', q', hdrafted⟩

/-- The operations are those whose parts there are. -/
theorem MethodsDrafted.mem_operations_iff {path : String} {api : Model} {depth : Option Int}
    {operations : List (Resource × Method)} {p q : Package} {xs : List MethodParts}
    (h : MethodsDrafted path api depth operations p q xs) {o : Resource × Method} :
    o ∈ operations ↔ ∃ x ∈ xs, x.operation = o := by
  rw [← h.operations, List.mem_map]

/-- Each of the parts is that of one of the operations. -/
theorem MethodsDrafted.operation_mem {path : String} {api : Model} {depth : Option Int}
    {operations : List (Resource × Method)} {p q : Package} {xs : List MethodParts}
    (h : MethodsDrafted path api depth operations p q xs) {x : MethodParts} (hx : x ∈ xs) :
    x.operation ∈ operations := h.mem_operations_iff.2 ⟨x, hx, rfl⟩

/-- Every operation has its parts, drafted at some point of the run. -/
theorem MethodsDrafted.exists_drafted {path : String} {api : Model} {depth : Option Int}
    {operations : List (Resource × Method)} {p q : Package} {xs : List MethodParts}
    (h : MethodsDrafted path api depth operations p q xs) {o : Resource × Method}
    (ho : o ∈ operations) :
    ∃ x ∈ xs, x.operation = o ∧ ∃ p' q', x.Drafted path api depth p' q' := by
  obtain ⟨x, hx, hop⟩ := h.mem_operations_iff.1 ho
  exact ⟨x, hx, hop, h.of_mem hx⟩

/-- Drafting methods one after another gives the parts of each. -/
theorem mapM_generateMethod_eq_ok {path : String} {api : Model} {depth : Option Int}
    {operations : List (Resource × Method)} {d d' : Draft} {packages : List (List String)}
    (hp : d.package.Ready path)
    (h : (operations.mapM fun o => generateMethod path api depth o.1 o.2).run d = .ok packages d') :
    ∃ xs, xs.map MethodParts.packages = packages ∧
      MethodsDrafted path api depth operations d.package d'.package xs := by
  induction operations generalizing d packages with
  | nil =>
    obtain ⟨rfl, rfl⟩ := Steps.run_mapM_nil_eq_ok.1 h
    exact ⟨[], rfl, rfl, by simp, .refl path _⟩
  | cons o rest ih =>
    obtain ⟨_, e, _, hrun, hrest, rfl⟩ := Steps.run_mapM_cons_eq_ok.1 h
    obtain ⟨x, hop, rfl, hx⟩ := generateMethod_eq_ok hp hrun
    obtain ⟨xs, rfl, hxs⟩ := ih (hx.appends.ready hp) hrest
    refine ⟨x :: xs, rfl, by
      rw [List.map_cons, hop, hxs.operations], ?_, hx.appends.trans hxs.appends⟩
    intro pre y post hsplit
    cases pre with
    | nil =>
      cases hsplit
      exact ⟨_, _, .refl path _, hx⟩
    | cons _ pre =>
      cases hsplit
      obtain ⟨p', q', happ, hy⟩ := hxs.drafted pre y post rfl
      exact ⟨p', q', hx.appends.trans happ, hy⟩

/-- Drafting the methods gives the parts of each and the packages they need. -/
theorem generateMethods_eq_ok {path : String} {api : Model} {depth : Option Int}
    {operations : List (Resource × Method)} {d d' : Draft} {packages : List String}
    (hp : d.package.Ready path)
    (h : (generateMethods path api depth operations).run d = .ok packages d') :
    ∃ xs, xs.flatMap MethodParts.packages = packages ∧
      MethodsDrafted path api depth operations d.package d'.package xs := by
  obtain ⟨_, e, hrun, h⟩ := Steps.run_bind_eq_ok.1 h
  obtain ⟨rfl, rfl⟩ := Steps.run_pure_eq_ok.1 h
  obtain ⟨xs, rfl, hxs⟩ := mapM_generateMethod_eq_ok hp hrun
  exact ⟨xs, List.flatMap_def, hxs⟩

/-! ### The whole file -/

/-- The function that returns the default base address. -/
def baseFunc (api : Model) : Func where
  name := baseUrlFunc
  receiver := none
  args := []
  results := ["string"]
  body := ["\treturn " ++ literal api.defaultBaseUrl ++ "\n"]

/-- The function for the base address is drafted if its name is free. -/
theorem generateBaseUrl_eq_ok {path : String} {api : Model} {d d' : Draft} {u : Unit}
    (hp : d.package.Ready path)
    (hnew : ∀ f, d.package.file? path = some f → f.func? baseUrlFunc = none)
    (h : (generateBaseUrl path api).run d = .ok u d') :
    d.package.isDeclared baseUrlFunc = false ∧
      Appends path [] [.func (baseFunc api)] d.package d'.package := by
  simp only [generateBaseUrl, Steps.run_bind_eq_ok, Drafting.run_attempt_eq_ok,
    Drafting.run_change, EStateM.Result.ok.injEq] at h
  obtain ⟨_, _, ⟨q, hq, rfl⟩, -, rfl⟩ := h
  obtain ⟨hundeclared, rfl⟩ := (hp.declare_eq_ok (d := .func ⟨baseUrlFunc, none, [], [], []⟩)
    fun f hf => by simp [File.definition?, hnew f hf]).1 hq
  have hfull := (Appends.insert path hundeclared).updateFunc hp hundeclared (fun f =>
    { f with
      results := f.results ++ ["string"]
      body := f.body ++ ["\treturn " ++ literal api.defaultBaseUrl ++ "\n"] }) fun _ => rfl
  exact ⟨hundeclared, by simpa [Definition.onFunc, baseFunc] using hfull⟩

/-- What is declared for the operations of an API if all of them can be. -/
theorem generateEndpoints_eq_ok {path : String} {api : Model} {depth : Option Int} {d d' : Draft}
    {u : Unit} (hp : d.package.Ready path)
    (hnew : ∀ f, d.package.file? path = some f → f.func? baseUrlFunc = none)
    (h : (generateEndpoints path api depth).run d = .ok u d') :
    ∃ p₁ p₂ xs, d.package.isDeclared baseUrlFunc = false ∧
      Appends path [] [.func (baseFunc api)] d.package p₁ ∧
      MethodsDrafted path api depth api.operations p₁ p₂ xs ∧
      Appends path (xs.flatMap MethodParts.packages) [] p₂ d'.package := by
  simp only [generateEndpoints, Steps.run_bind_eq_ok, Drafting.run_addImports,
    EStateM.Result.ok.injEq] at h
  obtain ⟨_, e₁, hbase, packages, e₂, hmethods, -, rfl⟩ := h
  obtain ⟨hundeclared, happ⟩ := generateBaseUrl_eq_ok hp hnew hbase
  obtain ⟨xs, rfl, hxs⟩ := generateMethods_eq_ok (happ.ready hp) hmethods
  exact ⟨_, _, xs, hundeclared, happ, hxs, .imports path _ _⟩

/-! ### Names that are taken -/

/-- An operation whose name is declared fails and changes nothing. -/
theorem generateMethod_of_isDeclared {path : String} {api : Model} {depth : Option Int}
    {r : Resource} {m : Method} {d : Draft} {name : String}
    (hname : configuredName r m depth = .ok name) (htaken : d.package.isDeclared name = true) :
    (generateMethod path api depth r m).run d =
      .error (.error (.nameTaken (Text.upper m.verb) r.path name)) d := by
  rw [generateMethod, Steps.run_bind_of_ok (Drafting.run_orDefect_eq_ok.2 ⟨hname, rfl⟩),
    Steps.run_bind_of_ok Drafting.run_package]
  apply Steps.run_bind_of_error
  rw [htaken]
  rfl

/-- If an operation fails when those before it are drafted, so does the whole. -/
theorem generateEndpoints_eq_error {path : String} {api : Model} {depth : Option Int}
    {pre post : List (Resource × Method)} {o : Resource × Method}
    (hsplit : api.operations = pre ++ o :: post) {d d₁ : Draft} {packages : List String}
    (hpre : (do generateBaseUrl path api; generateMethods path api depth pre).run d =
      .ok packages d₁) {e : Failure} {d' : Draft}
    (h : (generateMethod path api depth o.1 o.2).run d₁ = .error e d') :
    (generateEndpoints path api depth).run d = .error e d' := by
  obtain ⟨_, e₁, hbase, hmethods⟩ := Steps.run_bind_eq_ok.1 hpre
  obtain ⟨_, e₂, hrun, hpure⟩ := Steps.run_bind_eq_ok.1 hmethods
  obtain ⟨-, rfl⟩ := Steps.run_pure_eq_ok.1 hpure
  rw [generateEndpoints, Steps.run_bind_of_ok hbase]
  refine Steps.run_bind_of_error (Steps.run_bind_of_error ?_)
  rw [hsplit, List.mapM_append, Steps.run_bind_of_ok hrun, List.mapM_cons]
  exact Steps.run_bind_of_error (Steps.run_bind_of_error h)

/-- The name of an operation that has been drafted is declared. -/
theorem MethodsDrafted.isDeclared {path : String} {api : Model} {depth : Option Int}
    {operations : List (Resource × Method)} {p q : Package} {xs : List MethodParts}
    (h : MethodsDrafted path api depth operations p q xs) {o : Resource × Method}
    (ho : o ∈ operations) {name : String} (hname : configuredName o.1 o.2 depth = .ok name) :
    q.isDeclared name = true := by
  obtain ⟨x, hx, rfl, _, _, hdrafted⟩ := h.exists_drafted ho
  have heq : x.name = name := Except.ok.inj (hdrafted.name.symm.trans hname)
  have hmem : Definition.func x.func ∈ xs.flatMap MethodParts.definitions :=
    List.mem_flatMap.2 ⟨x, hx, List.mem_cons_self⟩
  rw [← heq]
  exact Package.isDeclared_of_entryOf? (h.appends.entry_of_mem _ hmem)

/-! ### Functions of operations -/

/-- Whether a method or one of its traits has query parameters. -/
def HasQuery (m : Method) : Prop :=
  m.queryParameters ≠ [] ∨ ∃ t ∈ m.traits, t.queryParameters ≠ []

/-- Whether a method or one of its traits has a body. -/
def HasBody (m : Method) : Prop := m.bodies ≠ [] ∨ ∃ t ∈ m.traits, t.bodies ≠ []

/-- A method without query parameters, of its own or of its traits. -/
theorem allQueryParameters_eq_nil {m : Method} : m.allQueryParameters = [] ↔ ¬HasQuery m := by
  simp [Method.allQueryParameters, HasQuery]

/-- A method without bodies, of its own or of its traits. -/
theorem allBodies_eq_nil {m : Method} : m.allBodies = [] ↔ ¬HasBody m := by
  simp [Method.allBodies, HasBody]

/-- What the function for an operation is like. -/
structure IsFuncOf (depth : Option Int) (o : Resource × Method) (g : Func) : Prop where
  /-- It has the name of the operation. -/
  name : configuredName o.1 o.2 depth = .ok g.name
  /-- It is a method of the client. -/
  receiver : g.receiver = some "c *Client"
  /-- It takes the parameters of the path, the query parameters and the payload. -/
  args : ∃ query payload, g.args = pathArgs o.1.uriParameters ++ query ++ payload ∧
    (HasQuery o.2 → query = [⟨"query", g.name ++ "Params"⟩]) ∧ (¬HasQuery o.2 → query = []) ∧
    (HasBody o.2 → ∃ type, payload = [⟨"payload", type⟩]) ∧ (¬HasBody o.2 → payload = [])
  /-- It returns the response, what the first successful response holds, and an error. -/
  results : ∃ response, o.2.successResponse = .ok response ∧
    g.results = ["*http.Response"] ++ (resultType response).toList ++ ["error"]

/-- Query parameters give one argument, if there are any. -/
theorem QueryDrafted.args_eq {p : Package} {path name : String} {parameters : List Parameter}
    {args : List Arg} {ds : List Definition} {packages : List String}
    (h : QueryDrafted p path name parameters args ds packages) :
    args = if parameters.isEmpty then [] else [⟨"query", name ++ "Params"⟩] := by
  cases h with
  | none hnil => simp [hnil]
  | there hcons _ => simp [hcons]
  | new hcons => simp [hcons]

/-- A body gives one argument, and without bodies there is none. -/
theorem BodyDrafted.args_eq {p : Package} {path name : String} {api : Model} {m : Method}
    {contentType : Option String} {args : List Arg} {ds : List Definition} {packages : List String}
    (h : BodyDrafted p path name api m contentType args ds packages) :
    (m.allBodies = [] ∧ args = []) ∨ (m.allBodies ≠ [] ∧ ∃ type, args = [⟨"payload", type⟩]) := by
  cases h with
  | none hnil => exact .inl ⟨hnil, rfl⟩
  | json hcons _ _ => exact .inr ⟨by simp [hcons], _, rfl⟩

/-- The function that is drafted for an operation is one for it. -/
theorem MethodParts.Drafted.isFuncOf {path : String} {api : Model} {depth : Option Int}
    {p q : Package} {x : MethodParts} (h : x.Drafted path api depth p q) :
    IsFuncOf depth x.operation x.func := by
  obtain ⟨_, _, -, hquery, -, hbody⟩ := h.parts
  refine ⟨h.name, rfl, ⟨x.queryArgs, x.payloadArgs, rfl, ?_, ?_, ?_, ?_⟩, x.response, h.response,
    rfl⟩
  · intro hq
    have hne : x.method.allQueryParameters ≠ [] := fun hnil => allQueryParameters_eq_nil.1 hnil hq
    rw [hquery.args_eq, if_neg (by simpa using hne)]
    rfl
  · intro hq
    have hnil : x.method.allQueryParameters = [] := allQueryParameters_eq_nil.2 hq
    rw [hquery.args_eq, hnil]
    rfl
  · intro hb
    obtain ⟨hnil, -⟩ | ⟨-, hpayload⟩ := hbody.args_eq
    · exact absurd hb (allBodies_eq_nil.1 hnil)
    · exact hpayload
  · intro hb
    obtain ⟨-, hpayload⟩ | ⟨hne, -⟩ := hbody.args_eq
    · exact hpayload
    · exact absurd (allBodies_eq_nil.2 hb) hne

/-- One function is drafted for an operation. -/
theorem MethodParts.Drafted.filterMap_func? {path : String} {api : Model} {depth : Option Int}
    {p q : Package} {x : MethodParts} (h : x.Drafted path api depth p q) :
    x.definitions.filterMap Definition.func? = [x.func] := by
  obtain ⟨_, _, -, hquery, -, hbody⟩ := h.parts
  have hnone (d : Definition) (hd : d ∈ x.params ++ x.payloads) : d.func? = none := by
    have hkind : d.kind = .struct := by
      rcases List.mem_append.1 hd with hd | hd
      · exact hquery.kind_eq d hd
      · exact hbody.kind_eq d hd
    cases d with
    | func _ => cases hkind
    | struct _ => rfl
    | typeDef _ => rfl
  rw [MethodParts.definitions, List.filterMap_cons, Definition.func?,
    List.filterMap_eq_nil_iff.2 hnone]

/-- The function of an operation is the only one among its definitions. -/
theorem MethodParts.Drafted.func_mem_definitions {path : String} {api : Model} {depth : Option Int}
    {p q : Package} {x : MethodParts} (h : x.Drafted path api depth p q) {g : Func} :
    Definition.func g ∈ x.definitions ↔ g = x.func := by
  rw [← List.mem_singleton, ← h.filterMap_func?, List.mem_filterMap]
  simp [Definition.func?_eq_some_iff]

/-- One function is drafted for each operation, in their order. -/
theorem MethodsDrafted.filterMap_func? {path : String} {api : Model} {depth : Option Int}
    {operations : List (Resource × Method)} {p q : Package} {xs : List MethodParts}
    (h : MethodsDrafted path api depth operations p q xs) :
    (xs.flatMap MethodParts.definitions).filterMap Definition.func? = xs.map MethodParts.func := by
  have hone (x : MethodParts) (hx : x ∈ xs) :
    x.definitions.filterMap Definition.func? = [x.func] := by
    obtain ⟨_, _, hdrafted⟩ := h.of_mem hx
    exact hdrafted.filterMap_func?
  rw [List.filterMap_flatMap, List.flatMap_congr hone, List.map_eq_flatMap]

/-! ### One function for each operation -/

/-- A grounded package is ready for definitions in an empty file. -/
theorem ready_of_empty {p : Package} {path : String} (hp : p.Grounded)
    (hfile : p.file? path = some (File.empty path)) : p.Ready path where
  grounded := hp
  isSome_file? := by simp [hfile]
  declared := fun f hf d hd => by
    rw [hfile, Option.some.injEq] at hf
    simp [← hf] at hd

/-- Nothing is drafted if the name of the function for the base address is declared. -/
theorem generateEndpoints_of_isDeclared {path : String} {api : Model} {depth : Option Int}
    {d : Draft} (hp : d.package.Grounded) (hfile : d.package.file? path = some (File.empty path))
    (htaken : d.package.isDeclared baseUrlFunc = true) :
    (generateEndpoints path api depth).run d =
      .error (.error (.duplicateIdentifier baseUrlFunc)) d := by
  have hdeclare : d.package.declareFunc path baseUrlFunc =
      .error (.duplicateIdentifier baseUrlFunc) := by
    rw [Package.declareFunc, Package.declare_eq_of_grounded hp hfile]
    simp [htaken, File.definition?, File.func?, File.empty]
  rw [generateEndpoints, generateBaseUrl]
  refine Steps.run_bind_of_error (Steps.run_bind_of_error ?_)
  rw [Drafting.attempt, Steps.run_bind_of_ok Drafting.run_package, hdeclare]
  rfl

/-- The functions for operations that could all be drafted into an empty file. -/
theorem funcs_of_generateEndpoints {path : String} {api : Model} {depth : Option Int} {d d' : Draft}
    {u : Unit} (hp : d.package.Grounded) (hfile : d.package.file? path = some (File.empty path))
    (h : (generateEndpoints path api depth).run d = .ok u d') :
    ∃ f gs, d'.package.file? path = some f ∧ f.funcs = baseFunc api :: gs ∧
      List.Forall₂ (IsFuncOf depth) api.operations gs ∧ (f.funcs.map (·.name)).Nodup ∧
      ∀ g ∈ f.funcs, d.package.isDeclared g.name = false := by
  have hready := ready_of_empty hp hfile
  obtain ⟨p₁, p₂, xs, hundeclared, hbase, hxs, himports⟩ := generateEndpoints_eq_ok hready
    (fun f hf => by
      rw [hfile, Option.some.injEq] at hf
      rw [← hf]
      rfl) h
  have hall := (hbase.trans hxs.appends).trans himports
  have hfile' := hall.file _ hfile
  generalize hds : [.func (baseFunc api)] ++ xs.flatMap MethodParts.definitions ++
    [] = ds at hall hfile'
  have hfuncs : ((File.empty path).addAll ds).funcs = ds.filterMap Definition.func? :=
    File.funcs_addAll _ _
  refine ⟨_, xs.map MethodParts.func, hfile', ?_, ?_, ?_, ?_⟩
  · apply hfuncs.trans
    rw [← hds, List.append_nil, List.filterMap_append, hxs.filterMap_func?]
    rfl
  · rw [← hxs.operations, List.forall₂_map_left_iff, List.forall₂_map_right_iff, List.forall₂_same]
    intro x hx
    obtain ⟨_, _, hdrafted⟩ := hxs.of_mem hx
    exact hdrafted.isFuncOf
  · exact hall.nodup.sublist (hfuncs ▸ Definition.names_funcs_sublist ds)
  · intro g hg
    have hmem : g ∈ ds.filterMap Definition.func? := hfuncs ▸ hg
    obtain ⟨_, hd, hsome⟩ := List.mem_filterMap.1 hmem
    obtain rfl := Definition.func?_eq_some_iff.1 hsome
    exact Package.isDeclared_eq_false.2 (hall.fresh _ hd)

/-- Operations and functions correspond one to one. Into an empty file, the function for the base
address and one function for each operation are drafted, in order and under new names, or else
drafting fails: at the function for the base address if its name is declared, and at the first
operation whose name is declared before the package, the base address, an operation before it or a
struct of one. -/
theorem generateEndpoints_one_to_one (path : String) (api : Model) (depth : Option Int) (d : Draft)
    (hp : d.package.Grounded) (hfile : d.package.file? path = some (File.empty path)) :
    (∀ u d', (generateEndpoints path api depth).run d = .ok u d' →
      ∃ f gs, d'.package.file? path = some f ∧ f.funcs = baseFunc api :: gs ∧
        List.Forall₂ (IsFuncOf depth) api.operations gs ∧ (f.funcs.map (·.name)).Nodup ∧
        ∀ g ∈ f.funcs, d.package.isDeclared g.name = false) ∧
    (d.package.isDeclared baseUrlFunc = true →
      (generateEndpoints path api depth).run d =
        .error (.error (.duplicateIdentifier baseUrlFunc)) d) ∧
    ∀ pre o post packages d₁ name, api.operations = pre ++ o :: post →
      (do generateBaseUrl path api; generateMethods path api depth pre).run d = .ok packages d₁ →
      configuredName o.1 o.2 depth = .ok name →
      (d.package.isDeclared name = true ∨ name = baseUrlFunc ∨
        (∃ o' ∈ pre, configuredName o'.1 o'.2 depth = .ok name) ∨
          d₁.package.isDeclared name = true) →
      (generateEndpoints path api depth).run d =
        .error (.error (.nameTaken (Text.upper o.2.verb) o.1.path name)) d₁ := by
  refine ⟨fun u d' h => funcs_of_generateEndpoints hp hfile h,
    fun htaken => generateEndpoints_of_isDeclared hp hfile htaken, ?_⟩
  intro pre o post packages d₁ name hsplit hpre hname htaken
  obtain ⟨_, e, hbase, hmethods⟩ := Steps.run_bind_eq_ok.1 hpre
  have hready := ready_of_empty hp hfile
  obtain ⟨-, happ⟩ := generateBaseUrl_eq_ok hready
    (fun f hf => by
      rw [hfile, Option.some.injEq] at hf
      rw [← hf]
      rfl) hbase
  obtain ⟨xs, -, hxs⟩ := generateMethods_eq_ok (happ.ready hready) hmethods
  have hdeclared : d₁.package.isDeclared name = true := by
    obtain hold | rfl | ⟨o', ho', hname'⟩ | hnow := htaken
    · exact hxs.appends.isDeclared (happ.isDeclared hold)
    · have hnew : e.package.isDeclared baseUrlFunc = true :=
        Package.isDeclared_of_entryOf? (happ.entry_of_mem _ List.mem_cons_self)
      exact hxs.appends.isDeclared hnew
    · exact hxs.isDeclared ho' hname'
    · exact hnow
  exact generateEndpoints_eq_error hsplit hpre (generateMethod_of_isDeclared hname hdeclared)

/-- A resource with a parameter in its path. -/
def itemResource (methods : List Method) : Resource where
  relativeUri := "/items/\x7bid\x7d"
  path := "/items/\x7bid\x7d"
  uriParameters := [⟨"id", ⟨"string", true, none, []⟩⟩]
  methods
  resources := []

/-- A method with a query parameter from a trait and a response. -/
def getItem : Method where
  verb := "get"
  displayName := none
  queryParameters := []
  bodies := []
  responses := [⟨"200", [⟨"application/json", ⟨"string", true, none, []⟩, []⟩]⟩]
  traits := [⟨.text "paged", [⟨"page", ⟨"integer", false, none, []⟩⟩], []⟩]

/-- A method with a body. -/
def postItem : Method where
  verb := "post"
  displayName := none
  queryParameters := []
  bodies := [⟨"application/json", ⟨"string", true, none, []⟩, []⟩]
  responses := []
  traits := []

/-- An API with one resource. -/
def itemApi (methods : List Method) : Model where
  title := "Items"
  version := "1"
  baseUri := "http://localhost"
  mediaType := "application/json"
  types := []
  traits := []
  resources := [itemResource methods]

/-- A package with a reserved name and an empty file. -/
def itemDraft : Draft := ⟨Package.empty.after [.reserve ["Client"], .file "endpoints.go"], []⟩

/-- Two methods get two functions, and a third one whose name is that of the first fails. -/
theorem generateEndpoints_items :
    (∃ d' f gs,
      (generateEndpoints "endpoints.go" (itemApi [getItem, postItem]) (some 0)).run itemDraft =
        .ok () d' ∧
      d'.package.file? "endpoints.go" = some f ∧
      f.funcs = baseFunc (itemApi [getItem, postItem]) :: gs ∧
      List.Forall₂ (IsFuncOf (some 0)) (itemApi [getItem, postItem]).operations gs ∧
      (f.funcs.map (·.name)).Nodup) ∧
    ∃ d₁, (generateEndpoints "endpoints.go" (itemApi [getItem, postItem, getItem]) (some 0)).run
        itemDraft =
      .error (.error (.nameTaken "GET" "/items/\x7bid\x7d" "GetItems")) d₁ := by
  have hgrounded : itemDraft.package.Grounded := Package.grounded_after _
  have hfile : itemDraft.package.file? "endpoints.go" = some (File.empty "endpoints.go") := by
    decide +kernel
  constructor
  · obtain ⟨_, d', hrun⟩ := Drafting.exists_run_of_succeeds (d := itemDraft)
      (x := generateEndpoints "endpoints.go" (itemApi [getItem, postItem]) (some 0))
      (by decide +kernel)
    obtain ⟨f, gs, hf, hfuncs, hall, hnodup, -⟩ := (generateEndpoints_one_to_one "endpoints.go"
      (itemApi [getItem, postItem]) (some 0) itemDraft hgrounded hfile).1 _ _ hrun
    exact ⟨d', f, gs, hrun, hf, hfuncs, hall, hnodup⟩
  · obtain ⟨packages, d₁, hrun⟩ := Drafting.exists_run_of_succeeds (d := itemDraft)
      (x := do
        generateBaseUrl "endpoints.go" (itemApi [getItem, postItem, getItem])
        generateMethods "endpoints.go" (itemApi [getItem, postItem, getItem]) (some 0)
          [(itemResource [getItem, postItem, getItem], getItem),
           (itemResource [getItem, postItem, getItem], postItem)])
      (by decide +kernel)
    have htaken := (generateEndpoints_one_to_one "endpoints.go"
      (itemApi [getItem, postItem, getItem]) (some 0) itemDraft hgrounded hfile).2.2 _
      (itemResource [getItem, postItem, getItem], getItem) [] _ _ "GetItems" rfl hrun
      (by decide +kernel) (.inr (.inr (.inl ⟨_, List.mem_cons_self, by decide +kernel⟩)))
    have hverb : Text.upper getItem.verb = "GET" := by decide +kernel
    rw [hverb] at htaken
    exact ⟨d₁, htaken⟩

end RamlClient.Client
