import RamlClient.Client.Operations
import RamlClient.Proofs.Declarations
/-!
# What is declared for an operation

An operation declares its function and, where they are needed, a struct of query parameters and a
struct for its payload. The parts of a drafted method say what has been declared and from what.
-/

namespace RamlClient.Client

open Api Go

/-! ### Query parameters -/

/-- The struct of query parameters of a method. -/
def paramsStruct (name : String) (parameters : List Parameter) : Struct :=
  ⟨name ++ "Params", parameters.map queryField⟩

/-- Whether the file at a path has a struct of a name. -/
def HasStruct (p : Package) (path name : String) : Prop :=
  ∃ f, p.file? path = some f ∧ f.hasStruct name = true

/-- The argument, the definitions and the packages for the query parameters of a method. -/
inductive QueryDrafted (p : Package) (path name : String) (parameters : List Parameter) :
    List Arg → List Definition → List String → Prop where
  /-- There are no query parameters. -/
  | none (hnil : parameters = []) : QueryDrafted p path name parameters [] [] []
  /-- The file has a struct of the name. -/
  | there (hcons : parameters ≠ []) (hthere : HasStruct p path (name ++ "Params")) :
    QueryDrafted p path name parameters [⟨"query", name ++ "Params"⟩] [] []
  /-- The struct is new. -/
  | new (hcons : parameters ≠ []) :
    QueryDrafted p path name parameters [⟨"query", name ++ "Params"⟩]
      [.struct (paramsStruct name parameters)] (parameters.flatMap fun q => typePackages q.type)

/-- The imports for the query parameters of a method. -/
def queryImports (parameters : List Parameter) : List String :=
  if parameters.isEmpty then [] else ["net/url", "fmt"]

/-- What is drafted for query parameters. -/
theorem generateQuery_eq_ok {path name : String} {parameters : List Parameter} {d d' : Draft}
    {args : List Arg} {packages : List String} (hp : d.package.Ready path)
    (h : (generateQuery path name parameters).run d = .ok (args, packages) d') :
    ∃ ds, QueryDrafted d.package path name parameters args ds packages ∧
      Appends path (queryImports parameters) ds d.package d'.package := by
  rw [generateQuery] at h
  rw [queryImports]
  split at h
  · rename_i hnil
    obtain ⟨hargs, rfl⟩ := Steps.run_pure_eq_ok.1 h
    cases hargs
    rw [if_pos hnil]
    exact ⟨[], .none (List.isEmpty_iff.1 hnil), .refl path _⟩
  · rename_i hcons
    rw [if_neg hcons]
    have hcons : parameters ≠ [] := by simpa using hcons
    have himports := Appends.imports path ["net/url", "fmt"] d.package
    have hp' := himports.ready hp
    simp only [Steps.run_bind_eq_ok, Drafting.run_addImports, Drafting.run_file,
      Drafting.run_attempt_eq_ok, EStateM.Result.ok.injEq] at h
    obtain ⟨_, _, ⟨-, rfl⟩, file, _, ⟨hfile, rfl⟩, _, _, ⟨q, hq, rfl⟩, h⟩ := h
    obtain ⟨f, hf⟩ := Option.isSome_iff_exists.1 hp.isSome_file?
    have hf' := himports.file f hf
    simp only [hf', Option.getD_some] at hfile
    subst hfile
    split at h
    · rename_i hthere
      obtain ⟨hargs, rfl⟩ := Steps.run_pure_eq_ok.1 h
      cases hargs
      rw [Package.declareStruct, Package.declare_eq_of_grounded hp'.grounded hf',
        if_pos (by simpa using hthere), Except.ok.injEq] at hq
      subst hq
      exact ⟨[], .there hcons ⟨f, hf, hthere⟩, himports⟩
    · rename_i hthere
      simp only [Steps.run_bind_eq_ok, Drafting.run_change, Steps.run_pure_eq_ok,
        EStateM.Result.ok.injEq] at h
      obtain ⟨_, _, ⟨-, rfl⟩, hargs, rfl⟩ := h
      cases hargs
      obtain ⟨hnew, rfl⟩ := (hp'.declare_eq_ok (d := .struct ⟨name ++ "Params", []⟩) fun g hg => by
        rw [hf', Option.some.injEq] at hg
        simpa [← hg, File.definition?_struct_eq_none] using hthere).1 hq
      exact ⟨_, .new hcons, himports.trans (hp'.appends_struct hnew (parameters.map queryField))⟩

/-! ### Payloads -/

/-- The struct for the payload of a method. -/
def payloadStruct (api : Model) (name : String) (body : Body) : Struct :=
  structFor api (name ++ "Payload") (payloadDeclaration api (name ++ "Payload") body)

/-- The type, the definitions and the packages for the payload of a method. -/
inductive PayloadDrafted (p : Package) (path name : String) (api : Model) (body : Body) :
    String → List Definition → List String → Prop where
  /-- The type of the body stands for it. -/
  | itself (hself : standsForItself p api body = .ok true) :
    PayloadDrafted p path name api body (typeText body.type) [] (typePackages body.type)
  /-- The file has a struct of the name. -/
  | there (hself : standsForItself p api body = .ok false)
    (hthere : HasStruct p path (name ++ "Payload")) :
    PayloadDrafted p path name api body (name ++ "Payload") [] (typePackages body.type)
  /-- The struct is new, and its lineage does not lead back to itself. -/
  | new (hself : standsForItself p api body = .ok false)
    (hacyclic : (lineage api (payloadDeclaration api (name ++ "Payload") body)).2 = none) :
    PayloadDrafted p path name api body (name ++ "Payload") [.struct (payloadStruct api name body)]
      (typePackages body.type ++
        (structProperties api (payloadDeclaration api (name ++ "Payload") body)).flatMap
          fun q => typePackages q.type)

/-- What is drafted for a payload. -/
theorem generatePayload_eq_ok {path name : String} {api : Model} {body : Body} {d d' : Draft}
    {type : String} {packages : List String} (hp : d.package.Ready path)
    (h : (generatePayload path name api body).run d = .ok (type, packages) d') :
    ∃ ds, PayloadDrafted d.package path name api body type ds packages ∧
      Appends path [] ds d.package d'.package := by
  simp only [generatePayload, Steps.run_bind_eq_ok, Drafting.run_package,
    Drafting.run_orError_eq_ok, EStateM.Result.ok.injEq] at h
  obtain ⟨_, _, ⟨rfl, rfl⟩, self, _, ⟨hself, rfl⟩, h⟩ := h
  cases self with
  | true =>
    obtain ⟨htype, rfl⟩ := Steps.run_pure_eq_ok.1 h
    cases htype
    exact ⟨[], .itself hself, .refl path _⟩
  | false =>
    obtain ⟨f, hf⟩ := Option.isSome_iff_exists.1 hp.isSome_file?
    simp only [Bool.false_eq_true, if_false, Steps.run_bind_eq_ok, Drafting.run_file, hf,
      Option.getD_some, EStateM.Result.ok.injEq] at h
    obtain ⟨_, _, ⟨rfl, rfl⟩, h⟩ := h
    split at h
    · rename_i hthere
      obtain ⟨htype, rfl⟩ := Steps.run_pure_eq_ok.1 h
      cases htype
      exact ⟨[], .there hself ⟨f, hf, hthere⟩, .refl path _⟩
    · rename_i hthere
      obtain ⟨more, e, hstruct, htype⟩ := Steps.run_bind_eq_ok.1 h
      obtain ⟨htype, rfl⟩ := Steps.run_pure_eq_ok.1 htype
      cases htype
      have hnew (g : File) (hg : d.package.file? path = some g) :
          g.struct? (name ++ "Payload") = none := by
        rw [hf, Option.some.injEq] at hg
        simpa [← hg, File.hasStruct] using hthere
      obtain ⟨hacyclic, rfl, happ⟩ := generateStruct_eq_ok hp hnew hstruct
      exact ⟨_, .new hself hacyclic, happ⟩

/-- The content type, the argument, the definitions and the packages for the body of a request. -/
inductive BodyDrafted (p : Package) (path name : String) (api : Model) (m : Method) :
    Option String → List Arg → List Definition → List String → Prop where
  /-- There is no body. -/
  | none (hnil : m.allBodies = []) : BodyDrafted p path name api m none [] [] []
  /-- The first body is JSON. -/
  | json {body : Body} {rest : List Body} {type : String} {ds : List Definition}
      {packages : List String} (hcons : m.allBodies = body :: rest)
      (hjson : isJsonContentType body.contentType = true)
      (hpayload : PayloadDrafted p path name api body type ds packages) :
    BodyDrafted p path name api m (some body.contentType) [⟨"payload", type⟩] ds packages

/-- The imports for the body of a request. -/
def bodyImports (m : Method) : List String :=
  if m.allBodies.isEmpty then [] else ["bytes", "encoding/json"]

/-- What is drafted for a body. -/
theorem generateBody_eq_ok {path name : String} {api : Model} {r : Resource} {m : Method}
    {d d' : Draft} {contentType : Option String} {args : List Arg} {packages : List String}
    (hp : d.package.Ready path)
    (h : (generateBody path name api r m).run d = .ok (contentType, args, packages) d') :
    ∃ ds, BodyDrafted d.package path name api m contentType args ds packages ∧
      Appends path (bodyImports m) ds d.package d'.package := by
  rw [generateBody] at h
  cases hbodies : m.allBodies with
  | nil =>
    rw [hbodies] at h
    obtain ⟨hargs, rfl⟩ := Steps.run_pure_eq_ok.1 h
    cases hargs
    refine ⟨[], .none hbodies, ?_⟩
    rw [bodyImports, hbodies]
    exact .refl path _
  | cons body rest =>
    rw [hbodies] at h
    by_cases hjson : isJsonContentType body.contentType = true
    · simp only [hjson, if_true, Steps.run_bind_eq_ok, Drafting.run_addImports,
        Steps.run_pure_eq_ok, EStateM.Result.ok.injEq] at h
      obtain ⟨⟨type, more⟩, e, hpayload, _, _, ⟨-, rfl⟩, hargs, rfl⟩ := h
      cases hargs
      obtain ⟨ds, hdrafted, happ⟩ := generatePayload_eq_ok hp hpayload
      refine ⟨ds, .json hbodies hjson hdrafted, ?_⟩
      rw [bodyImports, hbodies]
      simpa using happ.trans (Appends.imports path ["bytes", "encoding/json"] e.package)
    · simp only [hjson] at h
      exact absurd h Drafting.run_fail_ne_ok

/-! ### Methods -/

/-- What is drafted for an operation. -/
structure MethodParts where
  /-- The resource of the operation. -/
  resource : Resource
  /-- The operation. -/
  method : Method
  /-- The name of the function. -/
  name : String
  /-- The response that is decoded. -/
  response : Option Response
  /-- The argument for the query parameters. -/
  queryArgs : List Arg
  /-- The struct of query parameters. -/
  params : List Definition
  /-- The packages that its fields need. -/
  queryPackages : List String
  /-- The content type of the request. -/
  contentType : Option String
  /-- The argument for the payload. -/
  payloadArgs : List Arg
  /-- The struct for the payload. -/
  payloads : List Definition
  /-- The packages that the payload needs. -/
  payloadPackages : List String

namespace MethodParts

/-- The operation with its resource. -/
def operation (x : MethodParts) : Resource × Method := (x.resource, x.method)

/-- The function of an operation. -/
def func (x : MethodParts) : Func where
  name := x.name
  receiver := some clientReceiver
  args := pathArgs x.resource.uriParameters ++ x.queryArgs ++ x.payloadArgs
  results := resultTypes (resultType x.response)
  body := methodBody x.resource x.method x.response x.contentType

/-- The definitions for an operation. -/
def definitions (x : MethodParts) : List Definition :=
  .func x.func :: (x.params ++ x.payloads)

/-- The imports for an operation, but for those that its types need. -/
def imports (x : MethodParts) : List String :=
  ["net/http"] ++ queryImports x.method.allQueryParameters ++ bodyImports x.method ++
    statementImports x.resource x.response

/-- The packages that the types of an operation need. -/
def packages (x : MethodParts) : List String :=
  x.resource.uriParameters.flatMap (fun p => typePackages p.type) ++
    ((resultDescriptor x.response).map typePackages).getD [] ++ x.queryPackages ++ x.payloadPackages

/-- The second package is the first one with the definitions for an operation. -/
structure Drafted (path : String) (api : Model) (depth : Option Int) (p q : Package)
    (x : MethodParts) : Prop where
  /-- The function has the name of the operation. -/
  name : configuredName x.resource x.method depth = .ok x.name
  /-- The name was not declared. -/
  isDeclared : p.isDeclared x.name = false
  /-- The response is the first successful one. -/
  response : x.method.successResponse = .ok x.response
  /-- Query parameters and payload are drafted one after the other, when the function is there. -/
  parts : ∃ p₁ p₂,
    Appends path ["net/http"] [.func ⟨x.name, none, [], [], []⟩] p p₁ ∧
    QueryDrafted p₁ path x.name x.method.allQueryParameters x.queryArgs x.params x.queryPackages ∧
    Appends path (queryImports x.method.allQueryParameters) x.params p₁ p₂ ∧
    BodyDrafted p₂ path x.name api x.method x.contentType x.payloadArgs x.payloads x.payloadPackages
  /-- The definitions are appended. -/
  appends : Appends path x.imports x.definitions p q

end MethodParts

/-- A change of a function leaves structs as they are. -/
theorem map_onFunc_of_struct {ds : List Definition} (hds : ∀ d ∈ ds, d.kind = .struct)
    (name : String) (change : Func → Func) : ds.map (Definition.onFunc name change) = ds := by
  have hid (d : Definition) (hd : d ∈ ds) : d.onFunc name change = d := by
    have hkind := hds d hd
    cases d with
    | struct s => rfl
    | typeDef _ => cases hkind
    | func _ => cases hkind
  rw [List.map_congr_left hid, List.map_id']

/-- All that is defined for query parameters are structs. -/
theorem QueryDrafted.kind_eq {p : Package} {path name : String} {parameters : List Parameter}
    {args : List Arg} {ds : List Definition} {packages : List String}
    (h : QueryDrafted p path name parameters args ds packages) : ∀ d ∈ ds, d.kind = .struct := by
  cases h with
  | none _ => simp
  | there _ _ => simp
  | new _ => simp

/-- All that is defined for a body are structs. -/
theorem BodyDrafted.kind_eq {p : Package} {path name : String} {api : Model} {m : Method}
    {contentType : Option String} {args : List Arg} {ds : List Definition} {packages : List String}
    (h : BodyDrafted p path name api m contentType args ds packages) :
    ∀ d ∈ ds, d.kind = .struct := by
  cases h with
  | none _ => simp
  | json _ _ hpayload =>
    cases hpayload with
    | itself _ => simp
    | there _ _ => simp
    | new _ _ => simp

/-- An operation whose function can be declared adds its function, and structs for its query
parameters and its payload. The function gets its content when everything else is there, and the
structs stay. -/
theorem generateMethod_eq_ok {path : String} {api : Model} {depth : Option Int} {r : Resource}
    {m : Method} {d d' : Draft} {packages : List String} (hp : d.package.Ready path)
    (h : (generateMethod path api depth r m).run d = .ok packages d') :
    ∃ x : MethodParts, x.operation = (r, m) ∧ x.packages = packages ∧
      x.Drafted path api depth d.package d'.package := by
  rw [generateMethod] at h
  obtain ⟨name, _, hrun, h⟩ := Steps.run_bind_eq_ok.1 h
  obtain ⟨hname, rfl⟩ := Drafting.run_orDefect_eq_ok.1 hrun
  obtain ⟨_, _, hrun, h⟩ := Steps.run_bind_eq_ok.1 h
  cases hrun
  obtain ⟨_, _, hrun, h⟩ := Steps.run_bind_eq_ok.1 h
  obtain ⟨hundeclared, rfl⟩ := Drafting.run_failWhen_eq_ok.1 hrun
  obtain ⟨_, _, hrun, h⟩ := Steps.run_bind_eq_ok.1 h
  cases hrun
  obtain ⟨_, _, hrun, h⟩ := Steps.run_bind_eq_ok.1 h
  obtain ⟨q, hq, rfl⟩ := Drafting.run_attempt_eq_ok.1 hrun
  obtain ⟨response, _, hrun, h⟩ := Steps.run_bind_eq_ok.1 h
  obtain ⟨hresponse, rfl⟩ := Drafting.run_orDefect_eq_ok.1 hrun
  obtain ⟨⟨queryArgs, queryPackages⟩, e₁, hquery, h⟩ := Steps.run_bind_eq_ok.1 h
  obtain ⟨⟨contentType, payloadArgs, payloadPackages⟩, e₂, hbody, h⟩ := Steps.run_bind_eq_ok.1 h
  obtain ⟨_, _, hrun, h⟩ := Steps.run_bind_eq_ok.1 h
  cases hrun
  obtain ⟨_, _, hrun, h⟩ := Steps.run_bind_eq_ok.1 h
  cases hrun
  obtain ⟨_, _, hrun, h⟩ := Steps.run_bind_eq_ok.1 h
  cases hrun
  obtain ⟨hpackages, rfl⟩ := Steps.run_pure_eq_ok.1 h
  have himports := Appends.imports path ["net/http"] d.package
  have hp₀ := himports.ready hp
  obtain ⟨hnew, rfl⟩ := (hp₀.declare_eq_ok (d := .func ⟨name, none, [], [], []⟩) fun f hf =>
    hp₀.definition?_eq_none hf hundeclared .func).1 hq
  have hfunc := himports.trans (Appends.insert path hnew)
  have hp₁ := hfunc.ready hp
  obtain ⟨params, hparams, happ₁⟩ := generateQuery_eq_ok hp₁ hquery
  have hp₂ := happ₁.ready hp₁
  obtain ⟨payloads, hpayloads, happ₂⟩ := generateBody_eq_ok hp₂ hbody
  have happ₃ := Appends.imports path (statementImports r response) e₂.package
  have hall := ((hfunc.trans happ₁).trans happ₂).trans happ₃
  refine ⟨⟨r, m, name, response, queryArgs, params, queryPackages, contentType, payloadArgs,
    payloads, payloadPackages⟩, rfl, hpackages, hname, hundeclared, hresponse,
    ⟨_, _, hfunc, hparams, happ₁, hpayloads⟩, ?_⟩
  have hfull := hall.updateFunc hp hundeclared (fun f =>
    { f with
      receiver := some clientReceiver
      args := pathArgs r.uriParameters ++ queryArgs ++ payloadArgs
      results := resultTypes (resultType response)
      body := methodBody r m response contentType }) fun _ => rfl
  have hparams := map_onFunc_of_struct hparams.kind_eq name
  have hpayloads := map_onFunc_of_struct hpayloads.kind_eq name
  simp only [List.map_append, List.map_cons, List.map_nil, List.append_nil, hparams, hpayloads,
    Definition.onFunc, if_true] at hfull
  simpa [MethodParts.definitions, MethodParts.func, MethodParts.imports] using hfull

end RamlClient.Client
