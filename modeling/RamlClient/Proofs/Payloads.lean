import RamlClient.Proofs.Independence
/-!
# Payloads of declared types

A body whose type is declared needs no struct of its own: its payload has the Go type of the body.
That is so for all bodies without properties whose type is a name or an array, whatever declares the
name, and for optional ones unless the name stands for objects. An optional body of such a type is
not found among the types of the package, because its text is that of a pointer, and gets a struct
with the same fields.
-/

namespace RamlClient.Client

open Api Go

/-! ### Bodies of declared types -/

/-- The innermost elements of a type are of a declared type. -/
def NamesDeclared (api : Model) (d : TypeDescriptor) : Prop :=
  (api.findType? d.elementKind).isSome = true

/-- The text of a declared type is not the name of its Go type: it is a pointer, or the name is that
of the built-in objects. -/
def HidesName (d : TypeDescriptor) : Prop :=
  d.kind = "object" ∨ (d.required = false ∧ d.kind ∉ builtinKinds)

/-- The type is the name of a declared type of objects, and its text hides the name. -/
structure HidesObject (api : Model) (d : TypeDescriptor) : Prop where
  /-- The type is neither an array nor a union. -/
  single : (d.isArray || d.isUnion) = false
  /-- The name is that of a type of objects. -/
  object : ∃ t, api.findType? d.kind = some t ∧ isObjectType api t = .ok true
  /-- The text hides the name. -/
  hides : HidesName d

/-- What is no array is of its own kind. -/
theorem elementKind_of_isArray {d : TypeDescriptor} (h : d.isArray = false) :
    d.elementKind = d.kind := by
  obtain ⟨kind, required, items, members⟩ := d
  cases items with
  | none => rfl
  | some items => cases h

/-- The text of a declared type shows the name if it is required and no scalar, and for a built-in
kind the text does not matter. -/
theorem hidesName_iff {d : TypeDescriptor} : HidesName d ↔
    ¬ (d.required && (scalarType? d.kind).isNone) = true ∧
    ¬ (d.kind ∈ builtinKinds ∧ d.kind ≠ "object") := by
  unfold HidesName
  by_cases hobject : d.kind = "object"
  · have hscalar : (scalarType? "object").isNone = false := by decide
    simp [hobject, hscalar]
  by_cases hkind : d.kind ∈ builtinKinds
  · simp [hobject, hkind]
  · have hscalar : scalarType? d.kind = none := by
      cases hs : scalarType? d.kind with
      | none => rfl
      | some type => exact absurd (mem_builtinKinds_of_scalarType? hs) hkind
    simp [hobject, hkind, hscalar]

/-- A body whose type is the name of a declared type. -/
theorem bodyStands_of_declared {api : Model} {body : Body} {t : TypeDeclaration}
    (hno : body.properties = []) (hsingle : (body.type.isArray || body.type.isUnion) = false)
    (ht : api.findType? body.type.kind = some t) :
    (¬ HidesName body.type → bodyStands api body = .ok true) ∧
      (HidesName body.type → bodyStands api body = (isObjectType api t).map (!·)) := by
  rw [hidesName_iff]
  unfold bodyStands
  simp only [hno, hsingle, ht, List.isEmpty_nil, Bool.not_true, Bool.false_eq_true, if_false,
    Option.isSome_some, Bool.and_true]
  by_cases hplain : (body.type.required && (scalarType? body.type.kind).isNone) = true
  · rw [if_pos hplain]
    exact ⟨fun _ => rfl, fun h => absurd hplain h.1⟩
  rw [if_neg hplain]
  by_cases hbuiltin : body.type.kind ∈ builtinKinds ∧ body.type.kind ≠ "object"
  · rw [if_pos (by simpa using hbuiltin)]
    exact ⟨fun _ => rfl, fun h => absurd hbuiltin h.2⟩
  · rw [if_neg (by simpa using hbuiltin)]
    exact ⟨fun h => absurd ⟨hplain, hbuiltin⟩ h, fun _ => rfl⟩

/-- A body without properties whose type names a declared type stands for itself unless the text
hides a type of objects. -/
theorem bodyStands_iff {api : Model} {body : Body} {stands : Bool} (hno : body.properties = [])
    (hnames : NamesDeclared api body.type) (h : bodyStands api body = .ok stands) :
    stands = true ↔ ¬ HidesObject api body.type := by
  by_cases hmany : (body.type.isArray || body.type.isUnion) = true
  · have hstands : bodyStands api body = .ok true := by simp [bodyStands, hno, hmany]
    obtain rfl := Except.ok.inj (h.symm.trans hstands)
    refine iff_of_true rfl fun hhides => ?_
    rw [hhides.single] at hmany
    cases hmany
  have hsingle : (body.type.isArray || body.type.isUnion) = false := by simpa using hmany
  obtain ⟨t, ht⟩ : ∃ t, api.findType? body.type.kind = some t := by
    rw [NamesDeclared, elementKind_of_isArray (Bool.or_eq_false_iff.1 hsingle).1] at hnames
    exact Option.isSome_iff_exists.1 hnames
  obtain ⟨hshown, hhidden⟩ := bodyStands_of_declared hno hsingle ht
  by_cases hhides : HidesName body.type
  · rw [hhidden hhides] at h
    cases hobject : isObjectType api t with
    | error e =>
      rw [hobject] at h
      cases h
    | ok isObject =>
      rw [hobject] at h
      cases h
      have hiff : HidesObject api body.type ↔ isObject = true := by
        constructor
        · intro hbody
          obtain ⟨t', ht', hobject'⟩ := hbody.object
          obtain rfl := Option.some.inj (ht.symm.trans ht')
          exact Except.ok.inj (hobject.symm.trans hobject')
        · rintro rfl
          exact ⟨hsingle, ⟨t, ht, hobject⟩, hhides⟩
      rw [hiff]
      simp
  · obtain rfl := Except.ok.inj (h.symm.trans (hshown hhides))
    exact iff_of_true rfl fun hbody => hhides hbody.hides

/-! ### Packages with operations -/

/-- A package that some operations of an API have been drafted into. -/
inductive DraftedWith (depth : Option Int) (api : Model) (d : Draft) :
    List (Resource × Method) → Package → Prop where
  /-- The first operations are there, whatever becomes of the others. -/
  | begun {operations : List (Resource × Method)} {packages : List String} {d' : Draft}
      (hoperations : operations <+: api.operations)
      (h : (draftOperations depth api operations).run d = .ok packages d') :
    DraftedWith depth api d operations d'.package
  /-- The draft is finished. -/
  | finished {u : Unit} {d' : Draft} (h : (draftDefinitions depth api).run d = .ok u d') :
    DraftedWith depth api d api.operations d'.package

/-- Operations that are drafted together are those of the API. -/
theorem DraftedWith.subset {depth : Option Int} {api : Model} {d : Draft}
    {operations : List (Resource × Method)} {q : Package}
    (h : DraftedWith depth api d operations q) :
    operations ⊆ api.operations := by
  cases h with
  | begun hoperations _ => exact hoperations.subset
  | finished _ => exact List.Subset.refl _

/-- Operations that are drafted together with the types of the API are drafted in stages. -/
theorem DraftedWith.exists_stages {depth : Option Int} {api : Model} {d : Draft}
    {operations : List (Resource × Method)} {q : Package} (hp : d.package.WellFormed)
    (hfiles : d.package.files = []) (h : DraftedWith depth api d operations q) :
    ∃ (c : ClientStages) (imports : List String), c.Begun depth api operations d.package ∧
      Appends operationsPath imports (c.operationDefinitions api)
        (c.modelled.withFile operationsPath) q := by
  cases h with
  | begun _ h =>
    obtain ⟨c, hc, hoperated, -⟩ := draftOperations_eq_ok hp hfiles h
    exact ⟨c, _, hc, hoperated ▸ hc.base.trans hc.methods.appends⟩
  | finished h =>
    obtain ⟨c, hc⟩ := draftDefinitions_eq_ok hp hfiles h
    exact ⟨c, _, hc.toBegun, hc.appends⟩

namespace ClientStages.Begun

variable {depth : Option Int} {api : Model} {operations : List (Resource × Method)} {p q : Package}
  {c : ClientStages} {imports : List String}

/-- The file of the operations has a struct for the payload of an operation if one has been
drafted. -/
theorem hasStruct_payload_iff (h : c.Begun depth api operations p)
    (hq : Appends operationsPath imports (c.operationDefinitions api)
      (c.modelled.withFile operationsPath) q)
    {x : MethodParts} (hx : x ∈ c.methods) :
    HasStruct q operationsPath (x.name ++ "Payload") ↔ x.payloads ≠ [] := by
  constructor
  · intro hthere
    obtain ⟨s, hs, hname⟩ := hthere.of_appends hq h.file?_operations rfl
    rcases List.mem_cons.1 hs with hs | hs
    · cases hs
    obtain ⟨y, hy, hs⟩ := List.mem_flatMap.1 hs
    obtain ⟨_, _, hdrafted⟩ := h.methods.of_mem hy
    obtain ⟨hpayload, hyx⟩ := hdrafted.struct_mem_iff.2.1 ⟨hs, hname⟩
    obtain rfl := h.eq_of_name hy hx hyx
    exact List.ne_nil_of_mem hpayload
  · intro hne
    obtain hnil | ⟨body, -, hpayloads⟩ := (h.isNew x hx).payloads
    · exact absurd hnil hne
    have hmem : Definition.struct (payloadStruct api x.name body) ∈ c.operationDefinitions api := by
      refine List.mem_cons_of_mem _ (List.mem_flatMap.2 ⟨x, hx, ?_⟩)
      simp [MethodParts.definitions, hpayloads]
    refine ⟨_, hq.file _ h.file?_operations, ?_⟩
    have hthere : payloadStruct api x.name body ∈
        ((File.empty operationsPath).addAll (c.operationDefinitions api)).structs := by
      rw [File.structs_addAll]
      exact List.mem_append_right _ (List.mem_filterMap.2 ⟨_, hmem, rfl⟩)
    exact List.find?_isSome.2 ⟨_, hthere, by simp [payloadStruct, structFor]⟩

end ClientStages.Begun

/-- The payload of an operation whose first body is JSON and has no properties. Its type is
declared. -/
theorem BodyDrafted.payload_iff {p : Package} {path name : String} {api : Model} {m : Method}
    {contentType : Option String} {args : List Arg} {ds : List Definition} {packages : List String}
    (h : BodyDrafted p path name api m contentType args ds packages)
    (hnew : ¬HasStruct p path (name ++ "Payload")) (hholds : HoldsTypes api p) {body : Body}
    {rest : List Body} (hbody : m.allBodies = body :: rest) (hno : body.properties = [])
    (hnames : NamesDeclared api body.type) :
    (¬HidesObject api body.type → args = [⟨"payload", typeText body.type⟩] ∧ ds = []) ∧
      (HidesObject api body.type → args = [⟨"payload", name ++ "Payload"⟩] ∧ ds ≠ []) := by
  have hstands : standsForItself p api body = bodyStands api body := by
    refine standsForItself_eq hholds.findsTypes fun hsingle => .inr ?_
    rwa [NamesDeclared, elementKind_of_isArray (Bool.or_eq_false_iff.1 hsingle).1] at hnames
  cases h with
  | none hnil => simp [hnil] at hbody
  | json hcons _ hpayload =>
    obtain ⟨rfl, rfl⟩ := List.cons.inj (hbody.symm.trans hcons)
    cases hpayload with
    | itself hself =>
      have hshown := (bodyStands_iff hno hnames (hstands ▸ hself)).1 rfl
      exact ⟨fun _ => ⟨rfl, rfl⟩, fun hhides => absurd hhides hshown⟩
    | there _ hthere => exact absurd hthere hnew
    | new hself _ =>
      have hhides : HidesObject api body.type := by
        by_contra hshown
        cases (bodyStands_iff hno hnames (hstands ▸ hself)).2 hshown
      exact ⟨fun hshown => absurd hhides hshown, fun _ => ⟨rfl, by simp⟩⟩

/-- The payload of an operation has the Go type of the first body, and no struct is declared for it,
if the body is JSON without properties and of a declared type, whether it is required, optional or
an array. The only bodies for which that is not so are those whose text hides a type of objects:
they get a struct of their own. -/
theorem payload_reused_iff {entries : List (Value × Value)} {api : Model}
    (hapi : buildModel entries = .ok api) {names notes : List String} {depth : Option Int}
    {operations : List (Resource × Method)} {q : Package}
    (h : DraftedWith depth api ⟨(Package.empty.reserve names).1, notes⟩ operations q)
    {o : Resource × Method} (ho : o ∈ operations) {body : Body} {rest : List Body}
    (hbody : o.2.allBodies = body :: rest) (hno : body.properties = [])
    (hnames : NamesDeclared api body.type) :
    ∃ name g, configuredName o.1 o.2 depth = .ok name ∧ q.lookup name = some (.func g) ∧
      (¬HidesObject api body.type → g.args.getLast? = some ⟨"payload", typeText body.type⟩ ∧
        ¬HasStruct q operationsPath (name ++ "Payload")) ∧
      (HidesObject api body.type → g.args.getLast? = some ⟨"payload", name ++ "Payload"⟩ ∧
        HasStruct q operationsPath (name ++ "Payload")) := by
  obtain ⟨hwf, hfiles, -, -⟩ := Package.WellFormed.empty.reserve names
  have hverbs : ∀ o ∈ operations, o.2.verb ∈ verbs :=
    fun o ho => mem_verbs_of_buildModel hapi o (h.subset ho)
  obtain ⟨c, imports, hc, hq⟩ := h.exists_stages hwf hfiles
  obtain ⟨x, hx, rfl, _, _, hdrafted⟩ := hc.methods.exists_drafted ho
  obtain ⟨_, p₂, -, hpayload, hnew, hholds⟩ := hc.exists_stage hverbs hx
  obtain ⟨hshown, hhidden⟩ := hpayload.payload_iff hnew hholds hbody hno hnames
  refine ⟨x.name, x.func, hdrafted.name, hc.lookup_func hq hx, fun hbody => ?_, fun hbody => ?_⟩
  · obtain ⟨hargs, hnone⟩ := hshown hbody
    exact ⟨by simp [MethodParts.func, hargs],
      fun hthere => (hc.hasStruct_payload_iff hq hx).1 hthere hnone⟩
  · obtain ⟨hargs, hsome⟩ := hhidden hbody
    exact ⟨by simp [MethodParts.func, hargs], (hc.hasStruct_payload_iff hq hx).2 hsome⟩

/-- A document with a type of objects and an operation with a body. -/
def usersDocument (body : String) : List (Value × Value) :=
  [(.text "title", .text "T"),
   (.text "types", .mapping [(.text "User", .mapping
     [(.text "properties", .mapping [(.text "id", .text "integer")])])]),
   (.text "/users", .mapping [(.text "post", .mapping
     [(.text "body", .mapping [(.text "application/json", .text body)])])])]

/-- Whether an API has an operation of a name whose only body is JSON of a declared type. -/
def takesBody (api : Model) (name : String) (type : TypeDescriptor) : Bool :=
  (api.findType? type.elementKind).isSome && api.operations.any fun o =>
    decide (o.2.allBodies = [⟨"application/json", type, []⟩]) &&
      decide ((configuredName o.1 o.2 (some 0)).toOption = some name)

/-- A check of an API finds the operation with the body. -/
theorem exists_of_takesBody {api : Model} {name : String} {type : TypeDescriptor}
    (h : takesBody api name type = true) : NamesDeclared api type ∧ ∃ o ∈ api.operations,
      o.2.allBodies = [⟨"application/json", type, []⟩] ∧
        configuredName o.1 o.2 (some 0) = .ok name := by
  simp only [takesBody, Bool.and_eq_true, List.any_eq_true, decide_eq_true_eq,
    toOption_eq_some_iff] at h
  exact h

/-- Whether a function of a package takes a payload of a type last. -/
def takesPayload (p : Package) (name type : String) : Bool :=
  ((p.lookup name).bind Definition.func?).any fun g =>
    decide (g.args.getLast? = some ⟨"payload", type⟩)

/-- The arguments that are drafted for the documents. -/
theorem draft_users :
    (draftedPackage? ["Client"] (some 0) (usersDocument "User[]")).any
      (takesPayload · "CreateUsers" "[]User") = true ∧
    (draftedPackage? ["Client"] (some 0) (usersDocument "User | nil")).any
      (takesPayload · "CreateUsers" "CreateUsersPayload") = true := by
  delta draftedPackage? draftDefinitions generateModels generateModel generateEndpoints
    generateMethods generateMethod generateBody generatePayload standsForItself
  simp only [isObjectType, generateStruct, lineage_eq_upTo]
  constructor
  · decide +kernel
  · decide +kernel

/-- A body with a list of a declared type is sent as such a list. -/
theorem payload_reused_users : ∃ api d', buildModel (usersDocument "User[]") = .ok api ∧
    (draftDefinitions (some 0) api).run ⟨(Package.empty.reserve ["Client"]).1, []⟩ = .ok () d' ∧
    ∃ o ∈ api.operations, ∃ body, o.2.allBodies = [body] ∧ body.properties = [] ∧
      NamesDeclared api body.type ∧ ¬HidesObject api body.type ∧
      ∃ name g, configuredName o.1 o.2 (some 0) = .ok name ∧
        d'.package.lookup name = some (.func g) ∧
        g.args.getLast? = some ⟨"payload", typeText body.type⟩ ∧
        ¬HasStruct d'.package operationsPath (name ++ "Payload") := by
  obtain ⟨p, hp, -⟩ := (Option.any_eq_true _ _).1 draft_users.1
  obtain ⟨api, d', hapi, hrun, rfl⟩ := draftedPackage?_eq_some hp
  have hbody : (buildModel (usersDocument "User[]")).toOption.any
      (takesBody · "CreateUsers" (.arrayOf (.named "User" true) true)) = true := by
    decide +kernel
  simp only [hapi, Except.toOption, Option.any_some] at hbody
  obtain ⟨hnames, o, ho, hbodies, -⟩ := exists_of_takesBody hbody
  have hshown : ¬HidesObject api (.arrayOf (.named "User" true) true) := fun hhides =>
    absurd hhides.single (by decide)
  obtain ⟨name, g, hname, hlookup, hreused, -⟩ :=
    payload_reused_iff hapi (.finished hrun) ho hbodies rfl hnames
  obtain ⟨hargs, hnone⟩ := hreused hshown
  exact ⟨api, d', hapi, hrun, o, ho, _, hbodies, rfl, hnames, hshown, name, g, hname, hlookup,
    hargs, hnone⟩

/-- A body of an optional declared type is sent as a struct of its own, which the type of the body
is not. -/
theorem not_payload_reused_users : ∃ api d', buildModel (usersDocument "User | nil") = .ok api ∧
    (draftDefinitions (some 0) api).run ⟨(Package.empty.reserve ["Client"]).1, []⟩ = .ok () d' ∧
    ∃ o ∈ api.operations, ∃ body, o.2.allBodies = [body] ∧
      isJsonContentType body.contentType = true ∧
      body.properties = [] ∧ NamesDeclared api body.type ∧
      configuredName o.1 o.2 (some 0) = .ok "CreateUsers" ∧ typeText body.type = "*User" ∧
      ∃ g, d'.package.lookup "CreateUsers" = some (.func g) ∧
        g.args.getLast? = some ⟨"payload", "CreateUsersPayload"⟩ := by
  obtain ⟨p, hp, hpayload⟩ := (Option.any_eq_true _ _).1 draft_users.2
  obtain ⟨api, d', hapi, hrun, rfl⟩ := draftedPackage?_eq_some hp
  have hbody : (buildModel (usersDocument "User | nil")).toOption.any
      (takesBody · "CreateUsers" (.named "User" false)) = true := by
    decide +kernel
  simp only [hapi, Except.toOption, Option.any_some] at hbody
  obtain ⟨hnames, o, ho, hbodies, hname⟩ := exists_of_takesBody hbody
  obtain ⟨g, hlookup, hargs⟩ := (Option.any_eq_true _ _).1 hpayload
  obtain ⟨x, hx, hfunc⟩ := Option.bind_eq_some_iff.1 hlookup
  obtain rfl := Definition.func?_eq_some_iff.1 hfunc
  exact ⟨api, d', hapi, hrun, o, ho, _, hbodies, by
    decide, rfl, hnames, hname, by decide +kernel, g, hx, of_decide_eq_true hargs⟩

end RamlClient.Client
