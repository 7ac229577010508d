import Mathlib.Data.List.Forall2
import RamlClient.Proofs.Building
import RamlClient.Proofs.HeldTypes
/-!
# Operations do not interfere

What is drafted for an operation depends on the operation and on the declared types alone. Packages
for two APIs with the same types have the same function and the same structs for an operation of
both, whatever the other operations are: the structs of an operation are named after its function,
so no other operation declares them, and whether a body stands for itself is told by the declared
types.

A verb that begins with a star is left out: it would give a struct a name such as `*ItemPayload`,
which reads like the text of an optional type. The verbs of HTTP, which are those of all models that
are built from documents, do not begin so.
-/

namespace RamlClient.Client

open Api Go

/-! ### Names that are no pointers -/

/-- A text does not begin with the mark of a pointer. -/
def NoPointer (s : String) : Prop := s.toList.head? ≠ some '*'

instance (s : String) : Decidable (NoPointer s) := inferInstanceAs (Decidable (_ ≠ _))

/-- Letters and digits do not begin with the mark of a pointer. -/
theorem NoPointer.of_alphanumeric {s : String} (h : Alphanumeric s.toList) : NoPointer s := by
  intro hstar
  have halpha := h '*' (List.mem_of_head? hstar)
  exact absurd halpha (by decide)

/-- A text does not begin with the mark if neither of its parts does. -/
theorem NoPointer.append {s t : String} (hs : NoPointer s) (ht : NoPointer t) :
    NoPointer (s ++ t) := by
  unfold NoPointer at hs ht ⊢
  rw [String.toList_append]
  cases h : s.toList with
  | nil => exact ht
  | cons c r => simpa [h] using hs

/-- A character with a code above that of the star is none. -/
theorem ofNat_ne_star {n : Nat} (h : 42 < n) : Char.ofNat n ≠ '*' := by
  intro heq
  have hnat := congrArg Char.toNat heq
  have hstar : '*'.toNat = 42 := rfl
  have hcode := toNat_ofNat n
  omega

/-- Only the star has the star as its small letter. -/
theorem eq_star_of_toLower {c : Char} (h : c.toLower = '*') : c = '*' := by
  unfold Char.toLower at h
  split at h
  · rename_i hupper
    have hnat := congrArg Char.toNat h
    have hA : 'A'.val.toNat = 65 := rfl
    have hZ : 'Z'.val.toNat = 90 := rfl
    have hstar : '*'.toNat = 42 := rfl
    have hdiff : ('a'.val - 'A'.val).toNat = 32 := rfl
    simp only [ge_iff_le, UInt32.le_iff_toNat_le, Char.toNat, UInt32.toNat_add] at hupper hnat hstar
    omega
  · exact h

/-- The upper-case form of a character that is no star does not begin with one. -/
theorem head?_upperChars_ne {c : Char} (hc : c ≠ '*') (r : List Char) :
    (Text.upperChars c ++ r).head? ≠ some '*' := by
  unfold Text.upperChars
  split
  · rename_i e he
    have hall : ∀ e ∈ Text.upperExpansions,
        e.2.map Char.ofNat ≠ [] ∧ (e.2.map Char.ofNat).head? ≠ some '*' := by decide +kernel
    obtain ⟨hne, hhead⟩ := hall e (List.mem_of_find?_eq_some he)
    rwa [List.head?_append_of_ne_nil _ hne]
  · split
    · rename_i run hrun
      have hall : ∀ run ∈ Text.upperRuns, 42 < run.2.2.2 := by decide +kernel
      have hlt := hall run (List.mem_of_find?_eq_some hrun)
      have hne : Char.ofNat (run.2.2.2 + (c.toNat - run.1)) ≠ '*' := ofNat_ne_star (by omega)
      simpa using hne
    · simpa using hc

/-- The name of a verb begins with the mark only if the verb does. -/
theorem noPointer_verbName {verb : String} (h : NoPointer verb) : NoPointer (verbName verb) := by
  unfold verbName
  split
  · rename_i v hv
    have hall : ∀ v ∈ verbNames, NoPointer v.2 := by decide +kernel
    exact hall v (List.mem_of_find?_eq_some hv)
  · unfold NoPointer Text.lower at *
    rw [String.toList_ofList, String.toList_ofList]
    cases hverb : verb.toList with
    | nil => simp [upperFirst]
    | cons c r =>
      rw [hverb, List.head?_cons] at h
      exact head?_upperChars_ne (fun hstar => h (congrArg some (eq_star_of_toLower hstar))) _

/-- No verb of a model that is built from a document is a pointer. -/
theorem noPointer_of_buildModel {entries : List (Value × Value)} {api : Model}
    (h : buildModel entries = .ok api) : ∀ o ∈ api.operations, NoPointer o.2.verb := by
  have hall : ∀ verb ∈ verbs, NoPointer verb := by decide +kernel
  intro o ho
  exact hall _ (mem_verbs_of_buildModel h o ho)

/-- The name of an operation begins with the mark only if its verb does. -/
theorem noPointer_configuredName {r : Resource} {m : Method} {depth : Option Int} {name : String}
    (hverb : NoPointer m.verb) (h : configuredName r m depth = .ok name) : NoPointer name := by
  obtain halpha | ⟨tail, rfl, htail⟩ := configuredName_eq_ok h
  · exact .of_alphanumeric halpha
  · exact (noPointer_verbName hverb).append (.of_alphanumeric htail)

/-! ### Types that operations find -/

namespace ClientStages.Begun

variable {depth : Option Int} {api : Model} {operations : List (Resource × Method)} {p : Package}
  {c : ClientStages}

/-- The types of the client have names that are neither the text of an optional type nor that of
objects. -/
theorem name_of_type (h : c.Begun depth api operations p)
    (hverbs : ∀ o ∈ operations, NoPointer o.2.verb) {x : Definition} (hkind : x.kind ≠ .func)
    (hx : x ∈ c.models ∨ ∃ y ∈ c.methods, x ∈ y.definitions) :
    NoPointer x.name ∧ x.name ≠ kindType "object" := by
  obtain hx | ⟨y, hy, hx⟩ := hx
  · obtain ⟨t, -, hname⟩ := h.exists_declared hx
    rw [hname]
    refine ⟨.of_alphanumeric (alphanumeric_exportedName t.name), fun hobject => ?_⟩
    have halpha := alphanumeric_exportedName t.name
    rw [hobject] at halpha
    exact absurd halpha (by decide +kernel)
  · obtain ⟨_, _, hdrafted⟩ := h.methods.of_mem hy
    have ho : y.operation ∈ operations := h.methods.operation_mem hy
    have hname := noPointer_configuredName (hverbs _ ho) hdrafted.name
    have hlast (s : String) (hs : s.toList.getLast? ≠ some '\x7d') (hne : s.toList ≠ []) :
        y.name ++ s ≠ kindType "object" := by
      intro heq
      have hchar := congrArg (fun t : String => t.toList.getLast?) heq
      simp only [String.toList_append, List.getLast?_append_of_ne_nil _ hne] at hchar
      exact hs (hchar.trans (by decide +kernel))
    obtain hsuffix | hsuffix := h.exists_operation hy hx hkind <;> rw [hsuffix]
    · exact ⟨hname.append (by decide), hlast _ (by decide) (by decide)⟩
    · exact ⟨hname.append (by decide), hlast _ (by decide) (by decide)⟩

/-- The package finds the types of the API whenever its types are those of the client. -/
theorem findsTypes (h : c.Begun depth api operations p)
    (hverbs : ∀ o ∈ operations, NoPointer o.2.verb) {r : Package} (hr : r.WellFormed)
    (hmodels : ∀ x ∈ c.models, x ∈ r.definitions) (htypes : ∀ x ∈ r.definitions, x.kind ≠ .func →
      x ∈ c.models ∨ ∃ y ∈ c.methods, x ∈ y.definitions) : FindsTypes api r where
  declared := fun t ht => by
    obtain ⟨x, hx, hkind, hname⟩ := h.exists_name ht
    exact (refersToType_iff hr).2 ⟨x, hmodels x hx, hkind, hname⟩
  optional := fun s => by
    apply Bool.eq_false_iff.2
    intro hrefers
    obtain ⟨x, hx, hkind, hname⟩ := (refersToType_iff hr).1 hrefers
    refine (h.name_of_type hverbs hkind (htypes x hx hkind)).1 ?_
    rw [hname, String.toList_append]
    rfl
  object := by
    apply Bool.eq_false_iff.2
    intro hrefers
    obtain ⟨x, hx, hkind, hname⟩ := (refersToType_iff hr).1 hrefers
    exact (h.name_of_type hverbs hkind (htypes x hx hkind)).2 hname

end ClientStages.Begun

/-! ### Two drafts of one operation -/

/-- The request bodies of an API have kinds that are built in or declared. -/
def BodyKindsKnown (api : Model) : Prop :=
  ∀ o ∈ api.operations, ∀ body ∈ o.2.allBodies,
    body.type.kind ∈ builtinKinds ∨ (api.findType? body.type.kind).isSome = true

instance (api : Model) : Decidable (BodyKindsKnown api) :=
  inferInstanceAs (Decidable (∀ o ∈ api.operations, ∀ body ∈ o.2.allBodies, _))

/-- The struct for a declaration depends on the types that are found. -/
theorem structFor_congr {api other : Model} (h : api.findType? = other.findType?) :
    structFor api = structFor other := by
  funext name t
  simp only [structFor, structProperties, lineage_congr h]

/-- The struct for a payload depends on the types that are found. -/
theorem payloadStruct_congr {api other : Model} (h : api.findType? = other.findType?) :
    payloadStruct api = payloadStruct other := by
  funext name body
  simp only [payloadStruct, payloadDeclaration, structFor_congr h, h]

/-- Whether a body stands for itself depends on the types that are found. -/
theorem bodyStands_congr {api other : Model} (h : api.findType? = other.findType?) :
    bodyStands api = bodyStands other := by
  funext body
  simp only [bodyStands, isObjectType_congr h, h]

/-- The definition of a declared type depends on the types that are found. -/
theorem isModel_congr {api other : Model} (h : api.findType? = other.findType?) :
    IsModel api = IsModel other := by
  funext t x
  simp only [IsModel, modelDefinition, isObjectType_congr h, structFor_congr h]

/-- A declared type has one definition. -/
theorem IsModel.unique {api : Model} {t : TypeDeclaration} {x y : Definition} (hx : IsModel api t x)
    (hy : IsModel api t y) : x = y := by
  obtain ⟨isObject, hobject, rfl⟩ := hx
  obtain ⟨isObject', hobject', rfl⟩ := hy
  rw [Except.ok.inj (hobject.symm.trans hobject')]

/-- Two drafts of one body agree if the packages agree on whether it stands for itself, and neither
has the struct for it already. -/
theorem BodyDrafted.agree {p₁ p₂ : Package} {path name : String} {api₁ api₂ : Model} {m : Method}
    {contentType₁ contentType₂ : Option String} {args₁ args₂ : List Arg} {ds₁ ds₂ : List Definition}
    {packages₁ packages₂ : List String}
    (h₁ : BodyDrafted p₁ path name api₁ m contentType₁ args₁ ds₁ packages₁)
    (h₂ : BodyDrafted p₂ path name api₂ m contentType₂ args₂ ds₂ packages₂)
    (hno₁ : ¬HasStruct p₁ path (name ++ "Payload")) (hno₂ : ¬HasStruct p₂ path (name ++ "Payload"))
    (hstruct : payloadStruct api₁ = payloadStruct api₂)
    (hself : ∀ body ∈ m.allBodies, standsForItself p₁ api₁ body = standsForItself p₂ api₂ body) :
    contentType₁ = contentType₂ ∧ args₁ = args₂ ∧ ds₁ = ds₂ := by
  cases h₁ with
  | none hnil =>
    cases h₂ with
    | none _ => exact ⟨rfl, rfl, rfl⟩
    | json hcons _ _ => simp [hnil] at hcons
  | json hcons _ hpayload₁ =>
    cases h₂ with
    | none hnil => simp [hcons] at hnil
    | json hcons' _ hpayload₂ =>
      obtain ⟨rfl, rfl⟩ := List.cons.inj (hcons.symm.trans hcons')
      have hself := hself _ (hcons ▸ List.mem_cons_self)
      cases hpayload₁ with
      | there _ hthere => exact absurd hthere hno₁
      | itself hself₁ =>
        cases hpayload₂ with
        | there _ hthere => exact absurd hthere hno₂
        | itself _ => exact ⟨rfl, rfl, rfl⟩
        | new hself₂ _ => cases hself₁.symm.trans (hself.trans hself₂)
      | new hself₁ _ =>
        cases hpayload₂ with
        | there _ hthere => exact absurd hthere hno₂
        | itself hself₂ => cases hself₁.symm.trans (hself.trans hself₂)
        | new _ _ => exact ⟨rfl, rfl, by rw [hstruct]⟩

/-- The parts of one operation are the same in two clients whose APIs find the same types. -/
theorem ClientStages.Drafted.parts_eq {depth : Option Int} {api₁ api₂ : Model}
    {p₁ p₂ q₁ q₂ : Package} {c₁ c₂ : ClientStages} (h₁ : c₁.Drafted depth api₁ p₁ q₁)
    (h₂ : c₂.Drafted depth api₂ p₂ q₂) (hfind : api₁.findType? = api₂.findType?)
    (hbodies₁ : BodyKindsKnown api₁) (hbodies₂ : BodyKindsKnown api₂)
    (hverbs₁ : ∀ o ∈ api₁.operations, NoPointer o.2.verb)
    (hverbs₂ : ∀ o ∈ api₂.operations, NoPointer o.2.verb) {x₁ x₂ : MethodParts}
    (hx₁ : x₁ ∈ c₁.methods) (hx₂ : x₂ ∈ c₂.methods) (hmethod : x₁.method = x₂.method)
    (hname : x₁.name = x₂.name) :
    (x₁.queryArgs = x₂.queryArgs ∧ x₁.params = x₂.params) ∧
      x₁.contentType = x₂.contentType ∧ x₁.payloadArgs = x₂.payloadArgs ∧
      x₁.payloads = x₂.payloads := by
  have ho₁ : x₁.operation ∈ api₁.operations := h₁.methods.operation_mem hx₁
  have ho₂ : x₂.operation ∈ api₂.operations := h₂.methods.operation_mem hx₂
  obtain ⟨_, r₁, ⟨hquery₁, hnoParams₁⟩, ⟨hbody₁, hnoPayload₁⟩, hwf₁, hmodels₁, htypes₁⟩ :=
    h₁.exists_parts hx₁
  obtain ⟨_, r₂, ⟨hquery₂, hnoParams₂⟩, ⟨hbody₂, hnoPayload₂⟩, hwf₂, hmodels₂, htypes₂⟩ :=
    h₂.exists_parts hx₂
  have hself (body : Body) (hmem : body ∈ x₁.method.allBodies) :
      standsForItself r₁ api₁ body = standsForItself r₂ api₂ body := by
    rw [standsForItself_eq (h₁.findsTypes hverbs₁ hwf₁ hmodels₁ htypes₁)
        fun _ => hbodies₁ _ ho₁ body hmem,
      standsForItself_eq (h₂.findsTypes hverbs₂ hwf₂ hmodels₂ htypes₂)
        fun _ => hbodies₂ _ ho₂ body (show body ∈ x₂.method.allBodies from hmethod ▸ hmem),
      bodyStands_congr hfind]
  rw [← hmethod, ← hname] at hbody₂ hquery₂
  rw [← hname] at hnoParams₂ hnoPayload₂
  constructor
  · rw [hquery₁.args_eq, hquery₂.args_eq, hquery₁.definitions_eq hnoParams₁,
      hquery₂.definitions_eq hnoParams₂]
    exact ⟨rfl, rfl⟩
  · exact hbody₁.agree hbody₂ hnoPayload₁ hnoPayload₂ (payloadStruct_congr hfind) hself

/-! ### What a package has for an operation -/

/-- The struct that a name refers to. -/
def structNamed? (p : Package) (name : String) : Option Struct :=
  (p.lookup name).bind Definition.struct?

/-- A struct is found under its name exactly if it is defined. -/
theorem structNamed?_eq_some_iff {p : Package} (hp : p.WellFormed) {name : String} {s : Struct} :
    structNamed? p name = some s ↔ .struct s ∈ p.definitions ∧ s.name = name := by
  simp only [structNamed?, Option.bind_eq_some_iff, Definition.struct?_eq_some_iff]
  constructor
  · rintro ⟨_, hlook, rfl⟩
    exact hp.lookup_eq_some_iff.1 hlook
  · intro hs
    exact ⟨_, hp.lookup_eq_some_iff.2 hs, rfl⟩

/-- The structs for an operation: those of the name of its function with one of the suffixes. -/
theorem MethodParts.Drafted.struct_mem_iff {path : String} {api : Model} {depth : Option Int}
    {p q : Package} {x : MethodParts}
    (h : x.Drafted path api depth p q) {s : Struct} {name : String} :
    (.struct s ∈ x.definitions ∧ s.name = name ++ "Params" ↔ .struct s ∈ x.params ∧ x.name = name) ∧
    (.struct s ∈ x.definitions ∧ s.name = name ++ "Payload" ↔
      .struct s ∈ x.payloads ∧ x.name = name) := by
  obtain ⟨_, _, -, hquery, -, hbody⟩ := h.parts
  have hmem : .struct s ∈ x.definitions ↔ .struct s ∈ x.params ∨ .struct s ∈ x.payloads := by
    simp [MethodParts.definitions]
  rw [hmem]
  constructor
  · constructor
    · rintro ⟨hs | hs, hname⟩
      · exact ⟨hs, (String.append_left_inj _).1 ((hquery.struct_name hs).symm.trans hname)⟩
      · exact absurd ((hbody.struct_name hs).symm.trans hname).symm
          (append_params_ne_append_payload _ _)
    · rintro ⟨hs, rfl⟩
      exact ⟨.inl hs, hquery.struct_name hs⟩
  · constructor
    · rintro ⟨hs | hs, hname⟩
      · exact absurd ((hquery.struct_name hs).symm.trans hname)
          (append_params_ne_append_payload _ _)
      · exact ⟨hs, (String.append_left_inj _).1 ((hbody.struct_name hs).symm.trans hname)⟩
    · rintro ⟨hs, rfl⟩
      exact ⟨.inr hs, hbody.struct_name hs⟩

/-- Operations have different names. -/
theorem ClientStages.Begun.eq_of_name {depth : Option Int} {api : Model}
    {operations : List (Resource × Method)} {p : Package} {c : ClientStages}
    (h : c.Begun depth api operations p) {x y : MethodParts} (hx : x ∈ c.methods)
    (hy : y ∈ c.methods) (hname : x.name = y.name) : x = y := by
  have hsublist (xs : List MethodParts) :
      (xs.map MethodParts.name).Sublist
        ((xs.flatMap MethodParts.definitions).map Definition.name) := by
    induction xs with
    | nil => exact .slnil
    | cons x rest ih =>
      rw [List.flatMap_cons, MethodParts.definitions, List.cons_append, List.map_cons,
        List.map_cons, List.map_append]
      exact (ih.trans (List.sublist_append_right _ _)).cons_cons x.name
  exact List.inj_on_of_nodup_map (h.methods.appends.nodup.sublist (hsublist _)) hx hy hname

/-- The function of an operation is found under its name. -/
theorem ClientStages.Begun.lookup_func {depth : Option Int} {api : Model}
    {operations : List (Resource × Method)} {p q : Package} {c : ClientStages}
    {imports : List String} (h : c.Begun depth api operations p)
    (hq : Appends operationsPath imports (c.operationDefinitions api)
      (c.modelled.withFile operationsPath) q)
    {x : MethodParts} (hx : x ∈ c.methods) : q.lookup x.name = some (.func x.func) := by
  have hfile : ((c.modelled.withFile operationsPath).file? operationsPath).isSome := by
    simp [h.file?_operations]
  have hwf := h.wellFormed_modelled.of_appends hfile hq
  have hmem : Definition.func x.func ∈ c.operationDefinitions api :=
    List.mem_cons_of_mem _ (List.mem_flatMap.2 ⟨x, hx, List.mem_cons_self⟩)
  have hdefined := (h.wellFormed_modelled.mem_definitions_of_appends hfile hq).2 (.inr hmem)
  exact hwf.lookup_eq_some_iff.2 ⟨hdefined, rfl⟩

namespace ClientStages.Drafted

variable {depth : Option Int} {api : Model} {p q : Package} {c : ClientStages}

/-- A struct of the name of a function with a suffix is one of a declared type or one of the
operation. -/
theorem structNamed?_iff (h : c.Drafted depth api p q) {x : MethodParts} (hx : x ∈ c.methods)
    {s : Struct} :
    (structNamed? q (x.name ++ "Params") = some s ↔
      (.struct s ∈ c.models ∧ s.name = x.name ++ "Params") ∨ .struct s ∈ x.params) ∧
    (structNamed? q (x.name ++ "Payload") = some s ↔
      (.struct s ∈ c.models ∧ s.name = x.name ++ "Payload") ∨ .struct s ∈ x.payloads) := by
  have hmem : .struct s ∈ q.definitions ↔ .struct s ∈ c.models ∨ ∃ y ∈ c.methods,
      .struct s ∈ y.definitions := by
    simp [h.mem_definitions, operationDefinitions]
  obtain ⟨_, _, hdrafted⟩ := h.methods.of_mem hx
  rw [structNamed?_eq_some_iff h.wellFormed_end, structNamed?_eq_some_iff h.wellFormed_end, hmem]
  constructor
  · constructor
    · rintro ⟨hs | ⟨y, hy, hs⟩, hname⟩
      · exact .inl ⟨hs, hname⟩
      · obtain ⟨_, _, hydrafted⟩ := h.methods.of_mem hy
        obtain ⟨hparams, hyx⟩ := hydrafted.struct_mem_iff.1.1 ⟨hs, hname⟩
        exact .inr (h.eq_of_name hy hx hyx ▸ hparams)
    · rintro (⟨hs, hname⟩ | hs)
      · exact ⟨.inl hs, hname⟩
      · obtain ⟨hdefs, hname⟩ := hdrafted.struct_mem_iff.1.2 ⟨hs, rfl⟩
        exact ⟨.inr ⟨x, hx, hdefs⟩, hname⟩
  · constructor
    · rintro ⟨hs | ⟨y, hy, hs⟩, hname⟩
      · exact .inl ⟨hs, hname⟩
      · obtain ⟨_, _, hydrafted⟩ := h.methods.of_mem hy
        obtain ⟨hpayloads, hyx⟩ := hydrafted.struct_mem_iff.2.1 ⟨hs, hname⟩
        exact .inr (h.eq_of_name hy hx hyx ▸ hpayloads)
    · rintro (⟨hs, hname⟩ | hs)
      · exact ⟨.inl hs, hname⟩
      · obtain ⟨hdefs, hname⟩ := hdrafted.struct_mem_iff.2.2 ⟨hs, rfl⟩
        exact ⟨.inr ⟨x, hx, hdefs⟩, hname⟩

/-- The function of an operation is found under its name. -/
theorem lookup_func (h : c.Drafted depth api p q) {x : MethodParts} (hx : x ∈ c.methods) :
    q.lookup x.name = some (.func x.func) :=
  h.toBegun.lookup_func h.appends hx

end ClientStages.Drafted

/-- The definitions of the declared types are the same for APIs with the same types. -/
theorem ClientStages.Drafted.models_eq {depth : Option Int} {api₁ api₂ : Model}
    {p₁ p₂ q₁ q₂ : Package} {c₁ c₂ : ClientStages} (h₁ : c₁.Drafted depth api₁ p₁ q₁)
    (h₂ : c₂.Drafted depth api₂ p₂ q₂) (htypes : api₁.types = api₂.types)
    (hfind : api₁.findType? = api₂.findType?) :
    c₁.models = c₂.models := by
  have hmodel₁ := h₁.isModel
  rw [isModel_congr hfind, distinctTypes, htypes] at hmodel₁
  have hunique : Relator.RightUnique (IsModel api₂) := fun _ _ _ hx hy => hx.unique hy
  exact hunique.forall₂ hmodel₁ h₂.isModel

/-- The name of an operation depends on the path of its resource alone. -/
theorem configuredName_congr {r₁ r₂ : Resource} (h : r₁.path = r₂.path) :
    configuredName r₁ = configuredName r₂ := by
  funext m depth
  simp only [configuredName, operationName, h]

/-- The expression for a path depends on the path and on its parameters alone. -/
theorem pathExpression_congr {r₁ r₂ : Resource} (hpath : r₁.path = r₂.path)
    (hparameters : r₁.uriParameters = r₂.uriParameters) :
    pathExpression r₁ = pathExpression r₂ := by
  unfold pathExpression
  rw [hpath, hparameters]

/-- The statements for a request depend on the resource by its expression alone. -/
theorem requestStatements_congr {r₁ r₂ : Resource} (h : pathExpression r₁ = pathExpression r₂) :
    requestStatements r₁ = requestStatements r₂ := by
  funext m contentType result
  unfold requestStatements
  rw [h]

/-- The body of a method depends on its resource in the expression for the path alone. -/
theorem methodBody_congr {r₁ r₂ : Resource} (h : pathExpression r₁ = pathExpression r₂) :
    methodBody r₁ = methodBody r₂ := by
  funext m response contentType
  unfold methodBody
  rw [requestStatements_congr h]

/-- Two clients whose APIs have the same types agree on an operation of both: on its name, on its
function and on the structs of its name. -/
theorem ClientStages.Drafted.operation_agrees {depth : Option Int} {api₁ api₂ : Model}
    {p₁ p₂ q₁ q₂ : Package} {c₁ c₂ : ClientStages} (h₁ : c₁.Drafted depth api₁ p₁ q₁)
    (h₂ : c₂.Drafted depth api₂ p₂ q₂) (htypes : api₁.types = api₂.types)
    (hbodies₁ : BodyKindsKnown api₁) (hbodies₂ : BodyKindsKnown api₂)
    (hverbs₁ : ∀ o ∈ api₁.operations, NoPointer o.2.verb)
    (hverbs₂ : ∀ o ∈ api₂.operations, NoPointer o.2.verb) {r₁ r₂ : Resource} {m : Method}
    (ho₁ : (r₁, m) ∈ api₁.operations) (ho₂ : (r₂, m) ∈ api₂.operations) (hpath : r₁.path = r₂.path)
    (hparameters : r₁.uriParameters = r₂.uriParameters) :
    ∃ name g, configuredName r₁ m depth = .ok name ∧ configuredName r₂ m depth = .ok name ∧
      q₁.lookup name = some (.func g) ∧ q₂.lookup name = some (.func g) ∧
      structNamed? q₁ (name ++ "Params") = structNamed? q₂ (name ++ "Params") ∧
      structNamed? q₁ (name ++ "Payload") = structNamed? q₂ (name ++ "Payload") := by
  have hfind : api₁.findType? = api₂.findType? := by
    funext name
    rw [Model.findType?, Model.findType?, htypes]
  obtain ⟨x₁, hx₁, hop₁, _, _, hdrafted₁⟩ := h₁.methods.exists_drafted ho₁
  obtain ⟨x₂, hx₂, hop₂, _, _, hdrafted₂⟩ := h₂.methods.exists_drafted ho₂
  cases hop₁
  obtain ⟨hr₂, hmethod⟩ := Prod.mk.inj hop₂
  subst hr₂
  have hname : x₁.name = x₂.name := by
    have hname₁ := hdrafted₁.name
    rw [configuredName_congr hpath, ← hmethod, hdrafted₂.name] at hname₁
    exact (Except.ok.inj hname₁).symm
  have hresponse : x₁.response = x₂.response := by
    have hresponse₁ := hdrafted₁.response
    rw [← hmethod, hdrafted₂.response] at hresponse₁
    exact (Except.ok.inj hresponse₁).symm
  obtain ⟨⟨hargs, hparams⟩, hcontent, hpayloadArgs, hpayloads⟩ :=
    h₁.parts_eq h₂ hfind hbodies₁ hbodies₂ hverbs₁ hverbs₂ hx₁ hx₂ hmethod.symm hname
  have hfunc : x₁.func = x₂.func := by
    simp only [MethodParts.func, methodBody_congr (pathExpression_congr hpath hparameters),
      hparameters, hname, hmethod, hresponse, hargs, hcontent, hpayloadArgs]
  have hmodels := h₁.models_eq h₂ htypes hfind
  refine ⟨x₁.name, x₁.func, hdrafted₁.name, ?_, h₁.lookup_func hx₁, ?_, ?_, ?_⟩
  · rw [hname, ← hmethod]
    exact hdrafted₂.name
  · rw [hname, hfunc]
    exact h₂.lookup_func hx₂
  · ext s
    rw [(h₁.structNamed?_iff hx₁).1, hname, (h₂.structNamed?_iff hx₂).1, hmodels, hparams]
  · ext s
    rw [(h₁.structNamed?_iff hx₁).2, hname, (h₂.structNamed?_iff hx₂).2, hmodels, hpayloads]

/-- Operations do not interfere. For an operation that two APIs with the same types have, on
resources with the same path and the same parameters, the packages drafted for them have the same
function, and each has a struct of query parameters or a struct for the payload exactly if the other
one has the same. -/
theorem operations_independent {names notes : List String} {depth : Option Int} {api₁ api₂ : Model}
    (htypes : api₁.types = api₂.types)
    (hbodies₁ : BodyKindsKnown api₁) (hbodies₂ : BodyKindsKnown api₂)
    (hverbs₁ : ∀ o ∈ api₁.operations, NoPointer o.2.verb)
    (hverbs₂ : ∀ o ∈ api₂.operations, NoPointer o.2.verb) {d₁ d₂ : Draft}
    (h₁ : (draftDefinitions depth api₁).run ⟨(Package.empty.reserve names).1, notes⟩ = .ok () d₁)
    (h₂ : (draftDefinitions depth api₂).run ⟨(Package.empty.reserve names).1, notes⟩ = .ok () d₂)
    {r₁ r₂ : Resource} {m : Method} (ho₁ : (r₁, m) ∈ api₁.operations)
    (ho₂ : (r₂, m) ∈ api₂.operations) (hpath : r₁.path = r₂.path)
    (hparameters : r₁.uriParameters = r₂.uriParameters) :
    ∃ name g, configuredName r₁ m depth = .ok name ∧ configuredName r₂ m depth = .ok name ∧
      d₁.package.lookup name = some (.func g) ∧ d₂.package.lookup name = some (.func g) ∧
      structNamed? d₁.package (name ++ "Params") = structNamed? d₂.package (name ++ "Params") ∧
      structNamed? d₁.package (name ++ "Payload") =
        structNamed? d₂.package (name ++ "Payload") := by
  obtain ⟨c₁, hc₁⟩ := draftDefinitions_reserved_eq_ok h₁
  obtain ⟨c₂, hc₂⟩ := draftDefinitions_reserved_eq_ok h₂
  exact hc₁.operation_agrees hc₂ htypes hbodies₁ hbodies₂ hverbs₁ hverbs₂ ho₁ ho₂ hpath hparameters

/-- The operations of documents do not interfere. The models that are built from two documents have
the verbs of HTTP, so what is drafted for an operation of both agrees whenever their types do. -/
theorem documents_independent {names notes : List String} {depth : Option Int}
    {entries₁ entries₂ : List (Value × Value)} {api₁ api₂ : Model}
    (hbuild₁ : buildModel entries₁ = .ok api₁) (hbuild₂ : buildModel entries₂ = .ok api₂)
    (htypes : api₁.types = api₂.types)
    (hbodies₁ : BodyKindsKnown api₁) (hbodies₂ : BodyKindsKnown api₂) {d₁ d₂ : Draft}
    (h₁ : (draftDefinitions depth api₁).run ⟨(Package.empty.reserve names).1, notes⟩ = .ok () d₁)
    (h₂ : (draftDefinitions depth api₂).run ⟨(Package.empty.reserve names).1, notes⟩ = .ok () d₂)
    {r₁ r₂ : Resource} {m : Method} (ho₁ : (r₁, m) ∈ api₁.operations)
    (ho₂ : (r₂, m) ∈ api₂.operations) (hpath : r₁.path = r₂.path)
    (hparameters : r₁.uriParameters = r₂.uriParameters) :
    ∃ name g, configuredName r₁ m depth = .ok name ∧ configuredName r₂ m depth = .ok name ∧
      d₁.package.lookup name = some (.func g) ∧ d₂.package.lookup name = some (.func g) ∧
      structNamed? d₁.package (name ++ "Params") = structNamed? d₂.package (name ++ "Params") ∧
      structNamed? d₁.package (name ++ "Payload") =
        structNamed? d₂.package (name ++ "Payload") := by
  obtain ⟨c₁, hc₁⟩ := draftDefinitions_reserved_eq_ok h₁
  obtain ⟨c₂, hc₂⟩ := draftDefinitions_reserved_eq_ok h₂
  exact hc₁.operation_agrees hc₂ htypes hbodies₁ hbodies₂ (noPointer_of_buildModel hbuild₁)
    (noPointer_of_buildModel hbuild₂) ho₁ ho₂ hpath hparameters

/-- A method with a query parameter and a body that adds a property to a declared type. -/
def postOrder : Method where
  verb := "post"
  displayName := none
  queryParameters := [⟨"page", ⟨"integer", false, none, []⟩⟩]
  bodies := [⟨"application/json", ⟨"Order", true, none, []⟩,
    [⟨"note", ⟨"string", true, none, []⟩, "note"⟩]⟩]
  responses := []
  traits := []

/-- A resource next to the one with a parameter. -/
def orderResource : Resource where
  relativeUri := "/orders"
  path := "/orders"
  uriParameters := []
  methods := [postOrder]
  resources := []

/-- A declared type. -/
def orderType : TypeDeclaration :=
  ⟨"Order", [], [⟨"total", ⟨"integer", true, none, []⟩, "total"⟩], ⟨"object", true, none, []⟩⟩

/-- An API that declares the type. -/
def orderApi (resources : List Resource) : Model :=
  { itemApi [] with types := [orderType], resources }

/-- The types that the API declares. -/
theorem types_orderApi (resources : List Resource) : (orderApi resources).types = [orderType] := rfl

/-- A package with a reserved name. -/
def orderDraft : Draft := ⟨(Package.empty.reserve ["Client"]).1, []⟩

/-- Packages are drafted for the resource alone and with others before it. -/
theorem draft_orders_succeeds :
    ∀ rs ∈ [[itemResource [postOrder]], [orderResource, itemResource [getItem, postOrder]]],
      (draftDefinitions (some 0) (orderApi rs)).succeeds orderDraft = true := by
  simp only [draftDefinitions, generateModels, generateModel, generateEndpoints, generateMethods,
    generateMethod, generateBody, generatePayload, standsForItself, isObjectType, generateStruct,
    types_orderApi, List.mapM_cons, List.mapM_nil, lineage_eq_upTo]
  decide +kernel

/-- An operation keeps its function and its structs when others are put before it. -/
theorem operations_independent_orders : ∃ d₁ d₂ name g,
    (draftDefinitions (some 0) (orderApi [itemResource [postOrder]])).run orderDraft = .ok () d₁ ∧
    (draftDefinitions (some 0) (orderApi [orderResource, itemResource [getItem, postOrder]])).run
      orderDraft = .ok () d₂ ∧
    configuredName (itemResource [postOrder]) postOrder (some 0) = .ok name ∧
    d₁.package.lookup name = some (.func g) ∧ d₂.package.lookup name = some (.func g) ∧
    structNamed? d₁.package (name ++ "Params") = structNamed? d₂.package (name ++ "Params") ∧
    structNamed? d₁.package (name ++ "Payload") = structNamed? d₂.package (name ++ "Payload") := by
  obtain ⟨_, d₁, h₁⟩ := Drafting.exists_run_of_succeeds
    (draft_orders_succeeds [itemResource [postOrder]] List.mem_cons_self)
  obtain ⟨_, d₂, h₂⟩ := Drafting.exists_run_of_succeeds
    (draft_orders_succeeds [orderResource, itemResource [getItem, postOrder]]
      (List.mem_cons_of_mem _ List.mem_cons_self))
  have htypes : (orderApi [itemResource [postOrder]]).types =
      (orderApi [orderResource, itemResource [getItem, postOrder]]).types := rfl
  have ho₁ : (itemResource [postOrder], postOrder) ∈
      (orderApi [itemResource [postOrder]]).operations := List.mem_cons_self
  have ho₂ : (itemResource [getItem, postOrder], postOrder) ∈
      (orderApi [orderResource, itemResource [getItem, postOrder]]).operations :=
    .tail _ (.tail _ (.head _))
  obtain ⟨name, g, hname, -, hg₁, hg₂, hparams, hpayload⟩ :=
    operations_independent htypes (by decide +kernel) (by decide +kernel) (by decide +kernel)
      (by decide +kernel) h₁ h₂ ho₁ ho₂ rfl rfl
  exact ⟨d₁, d₂, name, g, h₁, h₂, hname, hg₁, hg₂, hparams, hpayload⟩

end RamlClient.Client
