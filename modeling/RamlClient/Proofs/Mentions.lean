import RamlClient.Proofs.HeldTypes
/-!
# What a client mentions

The type texts of a client are the texts of descriptors that its definitions mention, names of its
own structs, and a few fixed texts. `Mentioned` lists the descriptors by the API alone: those of
declared types, of the properties of lineages, and of the parameters, bodies and results of
operations.
-/

namespace RamlClient.Client

open Api Go

/-! ### Descriptors that a client mentions -/

/-- The descriptors whose type texts stand in the client of an API. -/
inductive Mentioned (depth : Option Int) (api : Model) : TypeDescriptor → Prop where
  /-- A type definition mentions what it stands for. -/
  | definition {t : TypeDeclaration} (ht : t ∈ distinctTypes api)
    (hobject : isObjectType api t = .ok false) :
    Mentioned depth api t.descriptor
  /-- A struct for a declared type mentions the properties of its lineage. -/
  | field {t : TypeDeclaration} {p : Property} (ht : t ∈ distinctTypes api)
    (hobject : isObjectType api t = .ok true) (hp : p ∈ structProperties api t) :
    Mentioned depth api p.type
  /-- A function mentions the parameters of its path. -/
  | path {o : Resource × Method} {p : Parameter} (ho : o ∈ api.operations)
      (hp : p ∈ o.1.uriParameters) : Mentioned depth api p.type
  /-- A struct of query parameters mentions all of them. -/
  | query {o : Resource × Method} {p : Parameter} (ho : o ∈ api.operations)
      (hp : p ∈ o.2.allQueryParameters) : Mentioned depth api p.type
  /-- A function mentions the first body if it stands for itself. -/
  | payload {o : Resource × Method} {body : Body} (ho : o ∈ api.operations)
    (hbody : o.2.allBodies.head? = some body) (hstands : bodyStands api body = .ok true) :
    Mentioned depth api body.type
  /-- A struct for a payload mentions the properties of the first body. -/
  | payloadField {o : Resource × Method} {body : Body} {name : String} {p : Property}
      (ho : o ∈ api.operations) (hbody : o.2.allBodies.head? = some body)
      (hstands : bodyStands api body = .ok false) (hname : configuredName o.1 o.2 depth = .ok name)
      (hp : p ∈ structProperties api (payloadDeclaration api (name ++ "Payload") body)) :
    Mentioned depth api p.type
  /-- A function mentions the first body of the first successful response. -/
  | result {o : Resource × Method} {response : Option Response} {d : TypeDescriptor}
      (ho : o ∈ api.operations) (hresponse : o.2.successResponse = .ok response)
      (hd : resultDescriptor response = some d) : Mentioned depth api d

/-- The properties of a struct are those of the declaration or of declared types. -/
theorem mem_of_mem_structProperties {api : Model} {t : TypeDeclaration} {p : Property}
    (h : p ∈ structProperties api t) : p ∈ t.properties ∨ ∃ s ∈ api.types, p ∈ s.properties := by
  obtain ⟨s, hs, hp⟩ := List.mem_flatMap.1 ((newMembers_sublist _ _ _).subset h)
  obtain rfl | hs := mem_lineage hs
  · exact .inl hp
  · exact .inr ⟨s, hs, hp⟩

/-- The first successful response is one of the responses. -/
theorem mem_of_firstSuccess {rs : List Response} {r : Response}
    (h : firstSuccess rs = .ok (some r)) :
    r ∈ rs := by
  induction rs with
  | nil => cases h
  | cons first rest ih =>
    rw [firstSuccess] at h
    cases hfirst : first.isSuccess with
    | error e =>
      rw [hfirst] at h
      cases h
    | ok success =>
      rw [hfirst] at h
      cases success with
      | true =>
        cases h
        exact List.mem_cons_self
      | false => exact List.mem_cons_of_mem first (ih h)

/-- The descriptors of a declared type are among those of the API. -/
theorem mem_descriptors_of_type {api : Model} {t : TypeDeclaration} (ht : t ∈ api.types)
    {d : TypeDescriptor} (hd : d = t.descriptor ∨ ∃ p ∈ t.properties, d = p.type) :
    d ∈ descriptors api := by
  refine List.mem_append_left _ (List.mem_flatMap.2 ⟨t, ht, ?_⟩)
  obtain rfl | ⟨p, hp, rfl⟩ := hd
  · exact List.mem_cons_self
  · exact List.mem_cons_of_mem _ (List.mem_map_of_mem hp)

/-- The descriptors of an operation are among those of the API. -/
theorem mem_descriptors_of_operation {api : Model} {o : Resource × Method} (ho : o ∈ api.operations)
    {d : TypeDescriptor} (hd : d ∈ operationDescriptors o) : d ∈ descriptors api :=
  List.mem_append_right _ (List.mem_flatMap.2 ⟨o, ho, hd⟩)

/-- What is mentioned is a descriptor of the API. -/
theorem Mentioned.mem_descriptors {depth : Option Int} {api : Model} {d : TypeDescriptor}
    (h : Mentioned depth api d) : d ∈ descriptors api := by
  cases h with
  | definition ht _ =>
      exact mem_descriptors_of_type ((newMembers_sublist _ _ _).subset ht) (.inl rfl)
  | field ht _ hp =>
    obtain hp | ⟨s, hs, hp⟩ := mem_of_mem_structProperties hp
    · exact mem_descriptors_of_type ((newMembers_sublist _ _ _).subset ht) (.inr ⟨_, hp, rfl⟩)
    · exact mem_descriptors_of_type hs (.inr ⟨_, hp, rfl⟩)
  | path ho hp =>
    apply mem_descriptors_of_operation ho
    simp only [operationDescriptors, List.mem_append]
    exact .inl (.inl (.inl (List.mem_map_of_mem hp)))
  | query ho hp =>
    apply mem_descriptors_of_operation ho
    simp only [operationDescriptors, List.mem_append]
    exact .inl (.inl (.inr (List.mem_map_of_mem hp)))
  | payload ho hbody _ =>
    apply mem_descriptors_of_operation ho
    simp only [operationDescriptors, List.mem_append]
    exact .inl (.inr (List.mem_flatMap.2 ⟨_, List.mem_of_head? hbody, List.mem_cons_self⟩))
  | payloadField ho hbody _ _ hp =>
    obtain hp | ⟨s, hs, hp⟩ := mem_of_mem_structProperties hp
    · apply mem_descriptors_of_operation ho
      simp only [operationDescriptors, List.mem_append]
      exact .inl (.inr (List.mem_flatMap.2
        ⟨_, List.mem_of_head? hbody, List.mem_cons_of_mem _ (List.mem_map_of_mem hp)⟩))
    · exact mem_descriptors_of_type hs (.inr ⟨_, hp, rfl⟩)
  | result ho hresponse hd =>
    apply mem_descriptors_of_operation ho
    simp only [operationDescriptors, List.mem_append]
    right
    unfold resultDescriptor at hd
    split at hd
    · rename_i code body rest
      cases hd
      exact List.mem_flatMap.2 ⟨_, mem_of_firstSuccess hresponse,
        List.mem_flatMap.2 ⟨body, List.mem_cons_self, List.mem_cons_self⟩⟩
    · cases hd

/-! ### Type texts of operations -/

/-- What is drafted for the body of an operation whose structs are new. -/
inductive PayloadShape (api : Model) (x : MethodParts) : Prop where
  /-- There is no body. -/
  | none (hbody : x.method.allBodies.head? = Option.none) (hargs : x.payloadArgs = [])
    (hpayloads : x.payloads = [])
  /-- The first body stands for itself. -/
  | itself {body : Body} (hbody : x.method.allBodies.head? = some body)
    (hstands : bodyStands api body = .ok true)
    (hargs : x.payloadArgs = [⟨"payload", typeText body.type⟩]) (hpayloads : x.payloads = [])
  /-- The first body gets a struct. -/
  | new {body : Body} (hbody : x.method.allBodies.head? = some body)
    (hstands : bodyStands api body = .ok false)
    (hargs : x.payloadArgs = [⟨"payload", x.name ++ "Payload"⟩])
    (hpayloads : x.payloads = [.struct (payloadStruct api x.name body)])

/-- A body that stands for itself is the type of the argument. -/
theorem PayloadShape.args_eq {api : Model} {x : MethodParts} (h : PayloadShape api x) {body : Body}
    (hbody : x.method.allBodies.head? = some body) (hstands : bodyStands api body = .ok true) :
    x.payloadArgs = [⟨"payload", typeText body.type⟩] := by
  cases h with
  | none hnil _ _ => cases hnil.symm.trans hbody
  | itself hbody' _ hargs _ =>
    cases hbody'.symm.trans hbody
    exact hargs
  | new hbody' hstands' _ _ =>
    cases hbody'.symm.trans hbody
    cases hstands'.symm.trans hstands

/-- A body that does not stand for itself has a struct. -/
theorem PayloadShape.payloads_eq {api : Model} {x : MethodParts} (h : PayloadShape api x)
    {body : Body} (hbody : x.method.allBodies.head? = some body)
    (hstands : bodyStands api body = .ok false) :
    x.payloads = [.struct (payloadStruct api x.name body)] := by
  cases h with
  | none hnil _ _ => cases hnil.symm.trans hbody
  | itself hbody' hstands' _ _ =>
    cases hbody'.symm.trans hbody
    cases hstands'.symm.trans hstands
  | new hbody' _ _ hpayloads =>
    cases hbody'.symm.trans hbody
    exact hpayloads

/-- What is drafted for a body: nothing, an argument of its type, or one of a new struct. -/
theorem BodyDrafted.shape {p : Package} {path name : String} {api : Model} {m : Method}
    {contentType : Option String} {args : List Arg} {ds : List Definition} {packages : List String}
    (h : BodyDrafted p path name api m contentType args ds packages)
    (hno : ¬HasStruct p path (name ++ "Payload")) (hp : HoldsTypes api p)
    (hknown : ∀ b ∈ m.allBodies, hasKnownKind api b.type = true) :
    (m.allBodies.head? = Option.none ∧ args = [] ∧ ds = []) ∨
      ∃ body, m.allBodies.head? = some body ∧
      ((bodyStands api body = .ok true ∧ args = [⟨"payload", typeText body.type⟩] ∧ ds = []) ∨
        (bodyStands api body = .ok false ∧ args = [⟨"payload", name ++ "Payload"⟩] ∧
          ds = [.struct (payloadStruct api name body)])) := by
  cases h with
  | none hnil => exact .inl ⟨by rw [hnil]; rfl, rfl, rfl⟩
  | @json body rest type ds packages hcons _ hpayload =>
    have hhead : m.allBodies.head? = some body := by rw [hcons]; rfl
    have hstands := standsForItself_eq hp.findsTypes
      (known_of_hasKnownKind (hknown body (List.mem_of_head? hhead)))
    refine .inr ⟨body, hhead, ?_⟩
    cases hpayload with
    | itself hself => exact .inl ⟨hstands ▸ hself, rfl, rfl⟩
    | there _ hthere => exact absurd hthere hno
    | new hself _ => exact .inr ⟨hstands ▸ hself, rfl, rfl⟩

namespace ClientStages.Drafted

variable {depth : Option Int} {api : Model} {p q : Package} {c : ClientStages}

/-- The argument and the struct of an operation are those of its body. -/
theorem payloadShape (h : c.Drafted depth api p q) (hverbs : ∀ o ∈ api.operations, o.2.verb ∈ verbs)
    (hknown : KindsKnown api) {x : MethodParts} (hx : x ∈ c.methods) : PayloadShape api x := by
  have ho : x.operation ∈ api.operations := h.methods.operation_mem hx
  have hbodies (b : Body) (hb : b ∈ x.method.allBodies) : hasKnownKind api b.type = true := by
    refine hknown _ (mem_descriptors_of_operation ho ?_)
    simp only [operationDescriptors, List.mem_append]
    exact .inl (.inr (List.mem_flatMap.2 ⟨b, hb, List.mem_cons_self⟩))
  obtain ⟨_, _, -, hbody, hno, hholds⟩ := h.exists_stage hverbs hx
  obtain ⟨hnil, hargs, hds⟩ | ⟨body, hhead, hself | hnew⟩ := hbody.shape hno hholds hbodies
  · exact .none hnil hargs hds
  · exact .itself hhead hself.1 hself.2.1 hself.2.2
  · exact .new hhead hnew.1 hnew.2.1 hnew.2.2

/-- The struct of query parameters mentions what it is about. -/
theorem exists_mentioned_of_params (h : c.Drafted depth api p q) {x : MethodParts}
    (hx : x ∈ c.methods) {y : Definition} (hy : y ∈ x.params) {text : String}
    (htext : text ∈ typeTexts y) :
    ∃ d, Mentioned depth api d ∧ typeText d = text := by
  have ho : x.operation ∈ api.operations := h.methods.operation_mem hx
  rw [(h.isNew x hx).params] at hy
  split at hy
  · cases hy
  · rw [List.mem_singleton.1 hy, typeTexts_paramsStruct] at htext
    obtain ⟨a, ha, rfl⟩ := List.mem_map.1 htext
    exact ⟨_, .query ho ha, rfl⟩

/-- The struct for a payload mentions what it is about. -/
theorem exists_mentioned_of_payloads (h : c.Drafted depth api p q)
    (hverbs : ∀ o ∈ api.operations, o.2.verb ∈ verbs) (hknown : KindsKnown api) {x : MethodParts}
    (hx : x ∈ c.methods) {y : Definition} (hy : y ∈ x.payloads) {text : String}
    (htext : text ∈ typeTexts y) : ∃ d, Mentioned depth api d ∧ typeText d = text := by
  have ho : x.operation ∈ api.operations := h.methods.operation_mem hx
  obtain ⟨_, _, hdrafted⟩ := h.methods.of_mem hx
  cases h.payloadShape hverbs hknown hx with
  | none _ _ hnil =>
    rw [hnil] at hy
    cases hy
  | itself _ _ _ hnil =>
    rw [hnil] at hy
    cases hy
  | new hbody hstands _ hpayloads =>
    rw [hpayloads] at hy
    rw [List.mem_singleton.1 hy, typeTexts_payloadStruct] at htext
    obtain ⟨a, ha, rfl⟩ := List.mem_map.1 htext
    exact ⟨_, .payloadField ho hbody hstands hdrafted.name ha, rfl⟩

/-- An argument names a struct of the operation or has the type of a descriptor. -/
theorem typeText_of_arg (h : c.Drafted depth api p q)
    (hverbs : ∀ o ∈ api.operations, o.2.verb ∈ verbs) (hknown : KindsKnown api) {x : MethodParts}
    (hx : x ∈ c.methods) {arg : Arg} (harg : arg ∈ x.func.args) :
    (∃ s, .struct s ∈ x.definitions ∧ s.name = arg.type) ∨
      ∃ d, Mentioned depth api d ∧ typeText d = arg.type := by
  have ho : x.operation ∈ api.operations := h.methods.operation_mem hx
  obtain ⟨_, _, hquery, -, -, -⟩ := h.exists_stage hverbs hx
  simp only [MethodParts.func, List.mem_append] at harg
  obtain (hpath | harg) | harg := harg
  · obtain ⟨a, ha, rfl⟩ := List.mem_map.1 hpath
    exact .inr ⟨_, .path ho ha, rfl⟩
  · rw [hquery.args_eq] at harg
    split at harg
    · cases harg
    · rename_i hne
      rw [List.mem_singleton.1 harg]
      exact .inl ⟨_, (h.isNew x hx).params_mem (by simpa using hne), rfl⟩
  · cases h.payloadShape hverbs hknown hx with
    | none _ hnil _ =>
      rw [hnil] at harg
      cases harg
    | itself hbody hstands hself _ =>
      rw [hself] at harg
      rw [List.mem_singleton.1 harg]
      exact .inr ⟨_, .payload ho hbody hstands, rfl⟩
    | @new body _ _ hself hpayloads =>
      rw [hself] at harg
      rw [List.mem_singleton.1 harg]
      exact .inl ⟨payloadStruct api x.name body, by simp [MethodParts.definitions, hpayloads], rfl⟩

/-- A type text of an operation is known, names a struct of the operation or comes from a
descriptor. -/
theorem typeText_of_operation (h : c.Drafted depth api p q)
    (hverbs : ∀ o ∈ api.operations, o.2.verb ∈ verbs) (hknown : KindsKnown api) {x : MethodParts}
    (hx : x ∈ c.methods) {y : Definition} (hy : y ∈ x.definitions) {text : String}
    (htext : text ∈ typeTexts y) :
    text ∈ ["*http.Response", "error"] ∨ (∃ s, .struct s ∈ x.definitions ∧ s.name = text) ∨
      ∃ d, Mentioned depth api d ∧ typeText d = text := by
  have ho : x.operation ∈ api.operations := h.methods.operation_mem hx
  obtain ⟨_, _, hdrafted⟩ := h.methods.of_mem hx
  rcases List.mem_cons.1 hy with rfl | hy
  · rcases List.mem_append.1 htext with hargs | hresult
    · obtain ⟨arg, harg, rfl⟩ := List.mem_map.1 hargs
      exact .inr (h.typeText_of_arg hverbs hknown hx harg)
    · simp only [MethodParts.func, resultTypes, List.mem_append] at hresult
      obtain (hresult | hresult) | hresult := hresult
      · exact .inl (by simp [List.mem_singleton.1 hresult])
      · obtain ⟨d, hd, rfl, -⟩ := resultType_eq_some_iff.1 (Option.mem_toList.1 hresult)
        exact .inr (.inr ⟨d, .result ho hdrafted.response hd, rfl⟩)
      · exact .inl (by simp [List.mem_singleton.1 hresult])
  · rcases List.mem_append.1 hy with hy | hy
    · exact .inr (.inr (h.exists_mentioned_of_params hx hy htext))
    · exact .inr (.inr (h.exists_mentioned_of_payloads hverbs hknown hx hy htext))

/-! ### Type texts of a client -/

/-- A type text of the client is known, names a struct or comes from a descriptor that is
mentioned. -/
theorem typeText_of_mem (h : c.Drafted depth api p q)
    (hverbs : ∀ o ∈ api.operations, o.2.verb ∈ verbs) (hknown : KindsKnown api) {text : String}
    (htext : text ∈ packageTypeTexts q) :
    text ∈ ["string", "*http.Response", "error"] ∨
    (∃ s, .struct s ∈ q.definitions ∧ s.name = text) ∨
      ∃ d, Mentioned depth api d ∧ typeText d = text := by
  obtain ⟨y, hy, htext⟩ := List.mem_flatMap.1 htext
  obtain hy | hy := h.mem_definitions.1 hy
  · obtain ⟨t, ht, isObject, hobject, rfl⟩ := h.exists_type hy
    cases isObject with
    | true =>
      simp only [modelDefinition, if_true, typeTexts_structFor] at htext
      obtain ⟨a, ha, rfl⟩ := List.mem_map.1 htext
      exact .inr (.inr ⟨_, .field ht hobject ha, rfl⟩)
    | false =>
      rw [List.mem_singleton.1 htext]
      exact .inr (.inr ⟨_, .definition ht hobject, rfl⟩)
  · rcases List.mem_cons.1 hy with rfl | hy
    · exact .inl (by simp [List.mem_singleton.1 htext])
    · obtain ⟨x, hx, hy⟩ := List.mem_flatMap.1 hy
      obtain hfixed | ⟨s, hs, hname⟩ | hdescriptor :=
        h.typeText_of_operation hverbs hknown hx hy htext
      · exact .inl (List.mem_cons_of_mem _ hfixed)
      · refine .inr (.inl ⟨s, h.mem_definitions.2 (.inr (List.mem_cons_of_mem _ ?_)), hname⟩)
        exact List.mem_flatMap.2 ⟨x, hx, hs⟩
      · exact .inr (.inr hdescriptor)

/-- The type texts of the definition for a declared type are among those of the client. -/
theorem mem_of_type (h : c.Drafted depth api p q) {t : TypeDeclaration} (ht : t ∈ distinctTypes api)
    {isObject : Bool} (hobject : isObjectType api t = .ok isObject) {text : String}
    (htext : text ∈ typeTexts (modelDefinition api t isObject)) : text ∈ packageTypeTexts q := by
  obtain ⟨x, hx, isObject', hobject', rfl⟩ := h.exists_model ht
  rw [hobject, Except.ok.injEq] at hobject'
  subst hobject'
  exact List.mem_flatMap.2 ⟨_, h.mem_definitions.2 (.inl hx), htext⟩

/-- The type texts of the definitions for an operation are among those of the client. -/
theorem mem_of_operation (h : c.Drafted depth api p q) {x : MethodParts} (hx : x ∈ c.methods)
    {y : Definition} (hy : y ∈ x.definitions) {text : String} (htext : text ∈ typeTexts y) :
    text ∈ packageTypeTexts q := by
  refine List.mem_flatMap.2 ⟨y, h.mem_definitions.2 (.inr (List.mem_cons_of_mem _ ?_)), htext⟩
  exact List.mem_flatMap.2 ⟨x, hx, hy⟩

/-- The text of a descriptor that is mentioned is a type text of the client, unless it is empty. -/
theorem mem_of_mentioned (h : c.Drafted depth api p q)
    (hverbs : ∀ o ∈ api.operations, o.2.verb ∈ verbs) (hknown : KindsKnown api) {d : TypeDescriptor}
    (hd : Mentioned depth api d) (hne : typeText d ≠ "") : typeText d ∈ packageTypeTexts q := by
  have hself (x : MethodParts) : Definition.func x.func ∈ x.definitions := List.mem_cons_self
  cases hd with
  | definition ht hobject => exact h.mem_of_type ht hobject (by simp [modelDefinition, typeTexts])
  | @field t a ht hobject ha =>
    apply h.mem_of_type ht hobject
    simp only [modelDefinition, if_true, typeTexts_structFor]
    exact List.mem_map.2 ⟨a, ha, rfl⟩
  | @path o a ho ha =>
    obtain ⟨x, hx, rfl⟩ := h.methods.mem_operations_iff.1 ho
    apply h.mem_of_operation hx (hself x)
    simp only [typeTexts, MethodParts.func, List.map_append, List.mem_append, pathArgs,
      List.map_map]
    exact .inl (.inl (.inl (List.mem_map.2 ⟨a, ha, rfl⟩)))
  | @query o a ho ha =>
    obtain ⟨x, hx, rfl⟩ := h.methods.mem_operations_iff.1 ho
    apply h.mem_of_operation hx ((h.isNew x hx).params_mem (List.ne_nil_of_mem ha))
    exact typeTexts_paramsStruct x.name _ ▸ List.mem_map.2 ⟨a, ha, rfl⟩
  | @payload o body ho hbody hstands =>
    obtain ⟨x, hx, rfl⟩ := h.methods.mem_operations_iff.1 ho
    apply h.mem_of_operation hx (hself x)
    have hargs := (h.payloadShape hverbs hknown hx).args_eq hbody hstands
    simp [typeTexts, MethodParts.func, hargs]
  | @payloadField o body name a ho hbody hstands hname ha =>
    obtain ⟨x, hx, rfl, _, _, hdrafted⟩ := h.methods.exists_drafted ho
    obtain rfl : x.name = name := Except.ok.inj (hdrafted.name.symm.trans hname)
    have hpayloads := (h.payloadShape hverbs hknown hx).payloads_eq hbody hstands
    have hmem : Definition.struct (payloadStruct api x.name body) ∈ x.definitions := by
      simp [MethodParts.definitions, hpayloads]
    apply h.mem_of_operation hx hmem
    exact typeTexts_payloadStruct api x.name body ▸ List.mem_map.2 ⟨a, ha, rfl⟩
  | @result o response d ho hresponse hd =>
    obtain ⟨x, hx, rfl, _, _, hdrafted⟩ := h.methods.exists_drafted ho
    obtain rfl : x.response = response := Except.ok.inj (hdrafted.response.symm.trans hresponse)
    apply h.mem_of_operation hx (hself x)
    have hresult := resultType_eq_some_iff.2 ⟨d, hd, rfl, hne⟩
    simp [typeTexts, MethodParts.func, resultTypes, hresult]

end ClientStages.Drafted

end RamlClient.Client
