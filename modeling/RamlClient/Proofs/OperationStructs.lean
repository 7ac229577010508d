import RamlClient.Proofs.Endpoints
/-!
# The structs of operations

The structs for an operation are named after its function with a suffix that tells them apart. As
the name of the function is new, so are the structs: in a file that had none, no operation finds a
struct of its own there already.
-/

namespace RamlClient.Client

open Api Go

/-! ### Names of structs -/

/-- A name with one suffix is not a name with the other. -/
theorem append_params_ne_append_payload (a b : String) : a ++ "Params" ≠ b ++ "Payload" := by
  intro h
  have hlast := congrArg (fun s : String => s.toList.getLast?) h
  have hparams : "Params".toList.getLast? = some 's' := by decide
  have hpayload : "Payload".toList.getLast? = some 'd' := by decide
  simp only [String.toList_append, List.getLast?_append, hparams, hpayload, Option.some_or] at hlast
  exact absurd hlast (by decide)

/-- The struct of query parameters has the name of the function and a suffix. -/
theorem QueryDrafted.struct_name {p : Package} {path name : String} {parameters : List Parameter}
    {args : List Arg} {ds : List Definition} {packages : List String}
    (h : QueryDrafted p path name parameters args ds packages) {s : Struct}
    (hs : Definition.struct s ∈ ds) : s.name = name ++ "Params" := by
  cases h with
  | none _ => cases hs
  | there _ _ => cases hs
  | new _ =>
    obtain rfl := Definition.struct.inj (List.mem_singleton.1 hs)
    rfl

/-- The struct for a payload has the name of the function and a suffix. -/
theorem BodyDrafted.struct_name {p : Package} {path name : String} {api : Model} {m : Method}
    {contentType : Option String} {args : List Arg} {ds : List Definition} {packages : List String}
    (h : BodyDrafted p path name api m contentType args ds packages) {s : Struct}
    (hs : Definition.struct s ∈ ds) : s.name = name ++ "Payload" := by
  cases h with
  | none _ => cases hs
  | json _ _ hpayload =>
    cases hpayload with
    | itself _ => cases hs
    | there _ _ => cases hs
    | new _ _ =>
      obtain rfl := Definition.struct.inj (List.mem_singleton.1 hs)
      rfl

/-- The structs for an operation are named after its function. -/
theorem MethodParts.Drafted.struct_name {path : String} {api : Model} {depth : Option Int}
    {p q : Package} {x : MethodParts} (h : x.Drafted path api depth p q) {s : Struct}
    (hs : Definition.struct s ∈ x.definitions) :
    s.name = x.name ++ "Params" ∨ s.name = x.name ++ "Payload" := by
  obtain ⟨_, _, -, hquery, -, hbody⟩ := h.parts
  rcases List.mem_cons.1 hs with hs | hs
  · cases hs
  · rcases List.mem_append.1 hs with hs | hs
    · exact .inl (hquery.struct_name hs)
    · exact .inr (hbody.struct_name hs)

/-! ### New structs -/

/-- A struct in a file that had none is one of those that have been appended. -/
theorem HasStruct.of_appends {p q : Package} {path name : String} {xs : List String}
    {ds : List Definition} (h : HasStruct q path name) (hq : Appends path xs ds p q) {f : File}
    (hf : p.file? path = some f) (hnone : f.structs = []) :
    ∃ s, .struct s ∈ ds ∧ s.name = name := by
  obtain ⟨g, hg, hthere⟩ := h
  rw [hq.file f hf, Option.some.injEq] at hg
  subst hg
  obtain ⟨s, hs⟩ := Option.isSome_iff_exists.1 hthere
  refine ⟨s, ?_, by simpa using List.find?_some hs⟩
  have hmem : s ∈ ((f.addAll ds).addImports xs).structs := List.mem_of_find?_eq_some hs
  rw [show ((f.addAll ds).addImports xs).structs = (f.addAll ds).structs from rfl,
    File.structs_addAll, hnone, List.nil_append] at hmem
  obtain ⟨d, hd, hsome⟩ := List.mem_filterMap.1 hmem
  exact Definition.struct?_eq_some_iff.1 hsome ▸ hd

/-- The structs of the operations before a new one have other names than its own. -/
theorem MethodsDrafted.struct_name_ne {path : String} {api : Model} {depth : Option Int}
    {operations : List (Resource × Method)} {p q p' : Package} {xs pre post : List MethodParts}
    {x : MethodParts} {ys : List String} (h : MethodsDrafted path api depth operations p q xs)
    (hsplit : xs = pre ++ x :: post)
    (hpre : Appends path ys (pre.flatMap MethodParts.definitions) p p')
    (hx : p'.isDeclared x.name = false) {s : Struct}
    (hs : .struct s ∈ pre.flatMap MethodParts.definitions) :
    s.name ≠ x.name ++ "Params" ∧ s.name ≠ x.name ++ "Payload" := by
  obtain ⟨y, hy, hsy⟩ := List.mem_flatMap.1 hs
  have hne : y.name ≠ x.name := by
    intro heq
    have hmem : Definition.func y.func ∈ pre.flatMap MethodParts.definitions :=
      List.mem_flatMap.2 ⟨y, hy, List.mem_cons_self⟩
    have hdeclared := Package.isDeclared_of_entryOf? (hpre.entry_of_mem _ hmem)
    rw [show (Definition.func y.func).name = y.name from rfl, heq, hx] at hdeclared
    cases hdeclared
  obtain ⟨_, _, hdrafted⟩ := h.of_mem (x := y) (by simp [hsplit, hy])
  obtain hname | hname := hdrafted.struct_name hsy <;> rw [hname]
  · exact ⟨fun heq => hne ((String.append_left_inj _).1 heq), append_params_ne_append_payload _ _⟩
  · exact ⟨(append_params_ne_append_payload _ _).symm, fun heq =>
      hne ((String.append_left_inj _).1 heq)⟩

/-- New query parameters have one struct, if there are any. -/
theorem QueryDrafted.definitions_eq {p : Package} {path name : String} {parameters : List Parameter}
    {args : List Arg} {ds : List Definition} {packages : List String}
    (h : QueryDrafted p path name parameters args ds packages)
    (hno : ¬HasStruct p path (name ++ "Params")) :
    ds = if parameters.isEmpty then [] else [.struct (paramsStruct name parameters)] := by
  cases h with
  | none hnil => simp [hnil]
  | there _ hthere => exact absurd hthere hno
  | new hcons => simp [hcons]

/-- A new body has one struct at most. -/
theorem BodyDrafted.definitions_eq {p : Package} {path name : String} {api : Model} {m : Method}
    {contentType : Option String} {args : List Arg} {ds : List Definition} {packages : List String}
    (h : BodyDrafted p path name api m contentType args ds packages)
    (hno : ¬HasStruct p path (name ++ "Payload")) :
    ds = [] ∨ ∃ body, m.allBodies.head? = some body ∧
    ds = [.struct (payloadStruct api name body)] := by
  cases h with
  | none _ => exact .inl rfl
  | json hcons _ hpayload =>
    cases hpayload with
    | itself _ => exact .inl rfl
    | there _ hthere => exact absurd hthere hno
    | new _ _ => exact .inr ⟨_, by rw [hcons]; rfl, rfl⟩

/-- The structs of an operation are new. -/
structure MethodParts.IsNew (api : Model) (x : MethodParts) : Prop where
  /-- There is a struct of query parameters if there are any. -/
  params : x.params = if x.method.allQueryParameters.isEmpty then []
    else [.struct (paramsStruct x.name x.method.allQueryParameters)]
  /-- The struct for a payload is the one for the first body. -/
  payloads : x.payloads = [] ∨ ∃ body, x.method.allBodies.head? = some body ∧
    x.payloads = [.struct (payloadStruct api x.name body)]

/-- An operation with query parameters has the struct for them. -/
theorem MethodParts.IsNew.params_mem {api : Model} {x : MethodParts} (h : x.IsNew api)
    (hne : x.method.allQueryParameters ≠ []) :
    Definition.struct (paramsStruct x.name x.method.allQueryParameters) ∈ x.definitions := by
  have hparams : x.params = [.struct (paramsStruct x.name x.method.allQueryParameters)] := by
    rw [h.params, if_neg (by simpa using hne)]
  simp [MethodParts.definitions, hparams]

/-- In a file without structs, no operation finds its structs there already. -/
theorem MethodsDrafted.not_hasStruct {path : String} {api : Model} {depth : Option Int}
    {operations : List (Resource × Method)} {p q : Package} {xs pre post : List MethodParts}
    {x : MethodParts} (h : MethodsDrafted path api depth operations p q xs) {f : File}
    (hf : p.file? path = some f) (hnone : f.structs = []) (hsplit : xs = pre ++ x :: post) :
    ∃ p₁ p₂ ys zs,
      Appends path ys (pre.flatMap MethodParts.definitions ++ [.func ⟨x.name, none, [], [], []⟩])
        p p₁ ∧
      QueryDrafted p₁ path x.name x.method.allQueryParameters x.queryArgs x.params x.queryPackages ∧
      ¬HasStruct p₁ path (x.name ++ "Params") ∧
      Appends path zs x.params p₁ p₂ ∧
      BodyDrafted p₂ path x.name api x.method x.contentType x.payloadArgs x.payloads
        x.payloadPackages ∧
      ¬HasStruct p₂ path (x.name ++ "Payload") := by
  obtain ⟨p', q', hpre, hdrafted⟩ := h.drafted pre x post hsplit
  obtain ⟨p₁, p₂, hfunc, hquery, hparams, hbody⟩ := hdrafted.parts
  have hbefore := hpre.trans hfunc
  have hother {s : Struct} := h.struct_name_ne hsplit hpre hdrafted.isDeclared (s := s)
  refine ⟨p₁, p₂, _, _, hbefore, hquery, ?_, hparams, hbody, ?_⟩
  · intro hthere
    obtain ⟨s, hs, hname⟩ := hthere.of_appends hbefore hf hnone
    rcases List.mem_append.1 hs with hs | hs
    · exact (hother hs).1 hname
    · simp at hs
  · intro hthere
    obtain ⟨s, hs, hname⟩ := hthere.of_appends (hbefore.trans hparams) hf hnone
    rcases List.mem_append.1 hs with hs | hs
    · rcases List.mem_append.1 hs with hs | hs
      · exact (hother hs).2 hname
      · simp at hs
    · rw [hquery.struct_name hs] at hname
      exact append_params_ne_append_payload _ _ hname

/-- In a file without structs, the structs of all operations are new. -/
theorem MethodsDrafted.isNew {path : String} {api : Model} {depth : Option Int}
    {operations : List (Resource × Method)} {p q : Package} {xs : List MethodParts}
    (h : MethodsDrafted path api depth operations p q xs) {f : File} (hf : p.file? path = some f)
    (hnone : f.structs = []) : ∀ x ∈ xs, x.IsNew api := by
  intro x hx
  obtain ⟨pre, post, hsplit⟩ := List.append_of_mem hx
  obtain ⟨_, _, _, _, -, hquery, hnoParams, -, hbody, hnoPayload⟩ := h.not_hasStruct hf hnone hsplit
  exact ⟨hquery.definitions_eq hnoParams, hbody.definitions_eq hnoPayload⟩

end RamlClient.Client
