import RamlClient.Proofs.Flattening
import RamlClient.Proofs.Payloads
import RamlClient.Proofs.WireNames
/-!
# Inline bodies and named types

A declaration with properties can be the body of a request or stand under a name among the types,
and it becomes a struct either way. The struct of the body inherits from one type, the kind of the
body. The struct of the named type inherits from all types of a list, and from none if its type is
an array, a union or optional. So both have the same fields exactly if whatever only one of them
inherits has a field in both already.
-/

namespace RamlClient.Api

/-! ### What a declaration inherits from -/

/-- A text is read as the name of a type. -/
def IsTypeName (n : String) : Prop := TypeExpression.parse n true = .named n true

/-- A value is a type expression or a list of names of types. -/
def GivesType (v : Value) : Prop :=
  (∃ e, v = .text e) ∨ ∃ names : List String, v = .list (names.map .text) ∧ ∀ n ∈ names,
    IsTypeName n

/-- Whether a type is an array, a union or optional; what is declared with such a type inherits from
none. -/
def IsCompound (d : TypeDescriptor) : Bool := d.isArray || d.isUnion || !d.required

/-- The supertypes that a body and a named type have in common if they are declared with a type, and
those that only one of them has. -/
inductive SupertypeSplit : Value → List String → List String → Prop where
  /-- A name is inherited from by both. -/
  | single {e : String} {d : TypeDescriptor} (hparse : TypeExpression.parse e true = d)
      (hsingle : IsCompound d = false) : SupertypeSplit (.text e) [d.kind] []
  /-- The body inherits from the kind of a type that a named type does not inherit from. -/
  | compound {e : String} {d : TypeDescriptor} (hparse : TypeExpression.parse e true = d)
      (hcompound : IsCompound d = true) : SupertypeSplit (.text e) [] [d.kind]
  /-- Without a name the body inherits from the kind of objects. -/
  | nothing : SupertypeSplit (.list []) [] ["object"]
  /-- Of some names, the named type inherits from all and the body from the first. -/
  | names {n : String} {rest : List String} (hnames : ∀ m ∈ n :: rest, IsTypeName m) :
    SupertypeSplit (.list ((n :: rest).map .text)) [n] rest

/-- What the supertypes have in common is determined by the type. -/
theorem SupertypeSplit.unique {v : Value} {shared disputed shared' disputed' : List String}
    (h : SupertypeSplit v shared disputed) (h' : SupertypeSplit v shared' disputed') :
    shared = shared' ∧ disputed = disputed' := by
  have hsame {e : String} {d d' : TypeDescriptor} (hd : TypeExpression.parse e true = d)
      (hd' : TypeExpression.parse e true = d') : d = d' := hd.symm.trans hd'
  cases h with
  | single hparse hsingle => cases h' with
    | single hparse' => exact ⟨by rw [hsame hparse hparse'], rfl⟩
    | compound hparse' hcompound => exact absurd (hsame hparse hparse' ▸ hsingle) (by
      simp [hcompound])
  | compound hparse hcompound => cases h' with
    | single hparse' hsingle => exact absurd (hsame hparse hparse' ▸ hcompound) (by simp [hsingle])
    | compound hparse' => exact ⟨rfl, by rw [hsame hparse hparse']⟩
  | nothing =>
    cases h'
    exact ⟨rfl, rfl⟩
  | names =>
    generalize hv : Value.list _ = v at h'
    cases h' with
    | single => cases hv
    | compound => cases hv
    | nothing => cases hv
    | names =>
      have hinj : Function.Injective Value.text := fun _ _ => Value.text.inj
      obtain ⟨rfl, rfl⟩ := List.cons.inj (hinj.list_map (Value.list.inj hv))
      exact ⟨rfl, rfl⟩

/-- The kind of a declaration whose type is a text is that of the text. -/
theorem kind_of_typeFacet {depth : Nat} {raw : Value} {entries : List (Value × Value)} {s : String}
    {required : Bool} {d : TypeDescriptor} (hraw : raw.opened = .mapping entries)
    (hs : typeFacet entries = .text s) (h : describeWithin depth raw required = .ok d) :
    d.kind = (TypeExpression.parse s required).kind := by
  cases depth with
  | zero => cases h
  | succ depth =>
    have harray : TypeExpression.parse "array" required = .named "array" required := by
      cases required <;> decide +kernel
    cases describedOnce_of_describeWithin h with
    | null hnull => cases hnull.symm.trans hraw
    | text htext => cases htext.symm.trans hraw
    | anyArray hraw' hfacet _ =>
      cases hraw'.symm.trans hraw
      cases hfacet.symm.trans hs
      exact (congrArg TypeDescriptor.kind harray).symm
    | array hraw' hfacet _ _ =>
      cases hraw'.symm.trans hraw
      cases hfacet.symm.trans hs
      exact (congrArg TypeDescriptor.kind harray).symm
    | expression hraw' hfacet _ =>
      cases hraw'.symm.trans hraw
      cases hfacet.symm.trans hs
      rfl
    | nested hraw' hmapping _ =>
      cases hraw'.symm.trans hraw
      rw [hs] at hmapping
      cases hmapping

/-- Texts are read as texts. -/
theorem mapM_textOf (names : List String) : (names.map Value.text).mapM textOf = .ok names := by
  induction names with
  | nil => rfl
  | cons n r ih =>
    rw [List.map_cons, List.mapM_cons, ih]
    rfl

section

variable {raw : Value} {entries : List (Value × Value)} {d : TypeDescriptor}

/-- The supertypes of a body and a named type are told apart for every type that a declaration may
give. -/
theorem exists_supertypeSplit {v : Value} (h : GivesType v) :
    ∃ shared disputed, SupertypeSplit v shared disputed := by
  rcases h with ⟨e, rfl⟩ | ⟨names, rfl, hnames⟩
  · cases hcompound : IsCompound (TypeExpression.parse e true) with
    | false => exact ⟨_, _, .single rfl hcompound⟩
    | true => exact ⟨_, _, .compound rfl hcompound⟩
  · cases names with
    | nil => exact ⟨_, _, .nothing⟩
    | cons n rest => exact ⟨_, _, .names hnames⟩

/-- The one type that a body inherits from, and those that a named type inherits from. -/
theorem SupertypeSplit.supertypes {shared disputed : List String}
    (hsplit : SupertypeSplit (declaredType entries) shared disputed)
    (hraw : raw.opened = .mapping entries) (h : describe raw true = .ok d) :
    ∃ inline named, [d.kind] = shared ++ inline ∧
      declaredSupertypes entries = .ok (shared ++ named) ∧
      (inline = [] ∧ named = disputed ∨ inline = disputed ∧ named = []) := by
  generalize hv : declaredType entries = v at hsplit
  have hfacet {s : String} (hs : typeFacet entries = .text s) {e : TypeDescriptor}
      (hparse : TypeExpression.parse s true = e) : d.kind = e.kind := by
    rw [kind_of_typeFacet hraw hs h, hparse]
  have hsupertypes {e : String} {d : TypeDescriptor} (hparse : TypeExpression.parse e true = d) :
      supertypesOf e = if IsCompound d then [] else [d.kind] := by
    rw [supertypesOf, hparse]
    rfl
  unfold declaredSupertypes
  cases hsplit with
  | single hparse hsingle =>
    rw [hfacet (by simp [typeFacet, hv, Value.opened]) hparse, hv]
    exact ⟨[], [], rfl, by simp [Value.opened, hsupertypes hparse, hsingle], .inl ⟨rfl, rfl⟩⟩
  | compound hparse hcompound =>
    rw [hfacet (by simp [typeFacet, hv, Value.opened]) hparse, hv]
    exact ⟨_, [], rfl, by simp [Value.opened, hsupertypes hparse, hcompound], .inr ⟨rfl, rfl⟩⟩
  | nothing =>
    have hparse : TypeExpression.parse "object" true = .named "object" true := by decide +kernel
    rw [hfacet (by simp [typeFacet, hv, Value.opened]) hparse, hv]
    exact ⟨_, [], rfl, rfl, .inr ⟨rfl, rfl⟩⟩
  | names hnames =>
    rw [hfacet (by simp [typeFacet, hv, Value.opened]) (hnames _ List.mem_cons_self), hv]
    exact ⟨[], _, rfl, mapM_textOf _, .inl ⟨rfl, rfl⟩⟩

/-- What is built of a declaration that is a mapping. -/
theorem buildBody_eq_ok {contentType : String} {body : Body} (hraw : raw.opened = .mapping entries)
    (h : buildBody contentType raw = .ok body) :
    buildProperties (facet entries "properties") = .ok body.properties ∧
    describe raw true = .ok body.type := by
  rw [buildBody] at h
  simp only [hraw, Building.bind_eq_ok] at h
  obtain ⟨properties, hproperties, type, htype, h⟩ := h
  cases h
  exact ⟨hproperties, htype⟩

/-- What is built of a declaration that is a mapping. -/
theorem buildType_of_mapping {name : String} {t : TypeDeclaration}
    (hraw : raw.opened = .mapping entries) (h : buildType (.text name, raw) = .ok t) :
    t.name = name ∧
      declaredSupertypes entries = .ok t.supertypes ∧
      buildProperties (facet entries "properties") = .ok t.properties := by
  rw [buildType] at h
  simp only [hraw, Building.bind_eq_ok] at h
  obtain ⟨n, hn, supertypes, hsupertypes, properties, hproperties, _, hpair, descriptor, -, h⟩ := h
  cases hn
  cases hpair
  cases h
  exact ⟨rfl, hsupertypes, hproperties⟩

end

end RamlClient.Api

namespace RamlClient.Client

open Api Go

/-! ### Documents with one more type -/

/-- Two documents describe APIs that differ in their types by one declaration only: it has a new
name, and it is the first one with the identifier of that name. -/
structure AddsType (entries₁ entries₂ : List (Value × Value)) (api₁ api₂ : Model) (name : String)
    (raw : Value) :
    Prop where
  /-- The first document describes an API. -/
  built₁ : buildModel entries₁ = .ok api₁
  /-- The second document describes an API. -/
  built₂ : buildModel entries₂ = .ok api₂
  /-- The types of the second document have one more entry than those of the first. -/
  entry : ∃ before after, sectionEntries "types" (typesSection entries₁) = .ok (before ++ after) ∧
    sectionEntries "types" (typesSection entries₂) = .ok (before ++ (.text name, raw) :: after)
  /-- The name is new. -/
  fresh : api₁.findType? name = none
  /-- No type with the same identifier comes before. -/
  first : (firstType? api₂ name).map (·.name) = some name

namespace AddsType

variable {entries₁ entries₂ entries : List (Value × Value)} {api₁ api₂ : Model} {name : String}
  {raw : Value}

/-- The types of the two APIs are the same but for the one that is added. -/
theorem types (h : AddsType entries₁ entries₂ api₁ api₂ name raw) :
    ∃ ts us t, buildType (.text name, raw) = .ok t ∧
    api₁.types = ts ++ us ∧ api₂.types = ts ++ t :: us := by
  obtain ⟨before, after, hsection₁, hsection₂⟩ := h.entry
  obtain ⟨types₁, hentries₁, htypes₁⟩ := (modelBuilt_of_buildModel h.built₁).types
  obtain ⟨types₂, hentries₂, htypes₂⟩ := (modelBuilt_of_buildModel h.built₂).types
  obtain rfl := Except.ok.inj (hsection₁.symm.trans hentries₁)
  obtain rfl := Except.ok.inj (hsection₂.symm.trans hentries₂)
  rw [List.mapM_append] at htypes₁ htypes₂
  rw [List.mapM_cons] at htypes₂
  obtain ⟨ts, hts, hrest₁⟩ := Building.bind_eq_ok.1 htypes₁
  obtain ⟨us, hus, hall₁⟩ := Building.bind_eq_ok.1 hrest₁
  obtain ⟨ts', hts', hrest₂⟩ := Building.bind_eq_ok.1 htypes₂
  obtain ⟨tail, htail, hall₂⟩ := Building.bind_eq_ok.1 hrest₂
  obtain ⟨t, ht, hrest⟩ := Building.bind_eq_ok.1 htail
  obtain ⟨us', hus', hcons⟩ := Building.bind_eq_ok.1 hrest
  obtain rfl := Except.ok.inj (hts.symm.trans hts')
  obtain rfl := Except.ok.inj (hus.symm.trans hus')
  cases hcons
  exact ⟨ts, us, t, ht, (Except.ok.inj hall₁).symm, (Except.ok.inj hall₂).symm⟩

/-- The added type is found under its name, and under all other names the same is found as without
it. -/
theorem findType? (h : AddsType entries₁ entries₂ api₁ api₂ name raw)
    (hraw : raw.opened = .mapping entries) :
    ∃ t, buildType (.text name, raw) = .ok t ∧ t.name = name ∧ api₂.findType? name = some t ∧
      t ∈ distinctTypes api₂ ∧ ∀ n, n ≠ name → api₂.findType? n = api₁.findType? n := by
  obtain ⟨ts, us, t, ht, htypes₁, htypes₂⟩ := h.types
  obtain ⟨hname, -, -⟩ := buildType_of_mapping hraw ht
  have hfresh := h.fresh
  rw [Model.findType?, htypes₁, List.find?_append, Option.or_eq_none_iff] at hfresh
  have hfound (n : String) : api₂.findType? n =
      (ts.find? (·.name == n)).or ((t :: us).find? (·.name == n)) := by
    rw [Model.findType?, htypes₂, List.find?_append]
  have hthere : api₂.findType? name = some t := by
    rw [hfound, hfresh.1, Option.none_or, List.find?_cons_of_pos (by simpa using hname)]
  refine ⟨t, ht, hname, hthere, ?_, fun n hn => ?_⟩
  · obtain ⟨first, hfirst, hfirstName⟩ := Option.map_eq_some_iff.1 h.first
    have heq : first = t := by
      have hmem : first ∈ ts ++ t :: us := htypes₂ ▸ List.mem_of_find?_eq_some hfirst
      have hno (x : TypeDeclaration) (hx : x.name = name) : x ∉ ts ∧ x ∉ us :=
        ⟨fun hmem => by simpa [hx] using List.find?_eq_none.1 hfresh.1 x hmem,
          fun hmem => by simpa [hx] using List.find?_eq_none.1 hfresh.2 x hmem⟩
      rcases List.mem_append.1 hmem with hmem | hmem
      · exact absurd hmem (hno first hfirstName).1
      rcases List.mem_cons.1 hmem with heq | hmem
      · exact heq
      · exact absurd hmem (hno first hfirstName).2
    exact heq ▸ (mem_newMembers_of_find? (fun t : TypeDeclaration => exportedName t.name) hfirst).1
  · have hne : (t.name == n) = false := by simpa [hname] using hn.symm
    rw [hfound, List.find?_cons, hne, Model.findType?, htypes₁, List.find?_append]

end AddsType

/-! ### Lineages without the added type -/

/-- Lineages in turn depend on the single lineages only. -/
theorem lineagesInTurn_congr {f g : TypeDeclaration → List TypeDeclaration × Option (List String)}
    {ds : List TypeDeclaration} (h : ∀ d ∈ ds, f d = g d) :
    lineagesInTurn f ds = lineagesInTurn g ds := by
  induction ds with
  | nil => rfl
  | cons d r ih =>
    obtain ⟨hd, hr⟩ := List.forall_mem_cons.1 h
    rw [lineagesInTurn, lineagesInTurn, hd, ih hr]

section

variable {api other : Model} {name : String} {t : TypeDeclaration}

/-- A walk that ends does not come to a type on its way, so none of these names is a supertype. -/
theorem notMem_supertypes {chain : List String} {current : TypeDeclaration}
    (ht : api.findType? name = some t) (hname : name ∈ chain ++ [current.name])
    (h : (lineageFrom api chain current).2 = none) :
    name ∉ current.supertypes := by
  intro hmem
  obtain ⟨-, hparents, -⟩ := lineageFrom_eq_none h
  have hnone := hparents t (inheritsFrom_iff.2 ⟨name, hmem, ht⟩)
  exact (lineageFrom_eq_none hnone).1 (name_of_findType? ht ▸ hname)

/-- The types of some names are the same in APIs that differ in another name only. -/
theorem filterMap_findType?_congr (hsame : ∀ n, n ≠ name → api.findType? n = other.findType? n)
    {names : List String} (h : name ∉ names) :
    names.filterMap api.findType? = names.filterMap other.findType? :=
  List.filterMap_congr fun n hn => hsame n fun heq => h (heq ▸ hn)

/-- A walk on whose way a type stands, and that ends, is the same without that type. -/
theorem lineageFrom_of_same (hsame : ∀ n, n ≠ name → api.findType? n = other.findType? n)
    (ht : api.findType? name = some t) {chain : List String} {current : TypeDeclaration}
    (hname : name ∈ chain) (h : (lineageFrom api chain current).2 = none) :
    lineageFrom other chain current = lineageFrom api chain current := by
  induction chain, current using walk_induction api with
  | seen chain current hmem => exact absurd hmem (lineageFrom_eq_none h).1
  | fresh chain current hmem ih =>
    obtain ⟨-, hparents, -⟩ := lineageFrom_eq_none h
    have hway : name ∈ chain ++ [current.name] := List.mem_append_left _ hname
    have hsupertypes : parents other current = parents api current :=
      (filterMap_findType?_congr hsame (notMem_supertypes ht hway h)).symm
    have hturn := lineagesInTurn_congr fun parent hparent =>
      ih parent hparent hway (hparents parent hparent)
    rw [lineageFrom_of_notMem hmem, lineageFrom_of_notMem hmem, hsupertypes, hturn]

end

/-! ### Inherited properties -/

/-- The properties along the lineages of the declared ones among some names. -/
def inheritedProperties (api : Model) (chain names : List String) : List Property :=
  (names.filterMap api.findType?).flatMap fun d =>
    (lineageFrom api chain d).1.flatMap (·.properties)

/-- A property is declared on a type of one of some names, or inherited by one of these types. -/
def InheritedThrough (api : Model) (names : List String) (p : Property) : Prop :=
  ∃ n ∈ names, ∃ d, api.findType? n = some d ∧ HasProperty api d p

/-- No lineage of the declared ones among some names leads back to itself. -/
def Ends (api : Model) (chain names : List String) : Prop :=
  ∀ d ∈ names.filterMap api.findType?, (lineageFrom api chain d).2 = none

section

variable {api : Model} {chain other names more : List String}

/-- The properties inherited through names in a row are those through one after the other. -/
theorem inheritedProperties_append : inheritedProperties api chain (names ++ more) =
    inheritedProperties api chain names ++ inheritedProperties api chain more := by
  rw [inheritedProperties, List.filterMap_append, List.flatMap_append]
  rfl

/-- The lineages of names in a row end if those of each do. -/
theorem ends_append : Ends api chain (names ++ more) ↔
    Ends api chain names ∧ Ends api chain more := by
  rw [Ends, List.filterMap_append, List.forall_mem_append]
  rfl

/-- Lineages that end have the same properties on any chain. -/
theorem inheritedProperties_eq (h : Ends api chain names) (h' : Ends api other names) :
    inheritedProperties api chain names = inheritedProperties api other names :=
  List.flatMap_congr fun d hd => by rw [lineageFrom_fst_eq (h d hd) (h' d hd)]

/-- The inherited properties are those that are inherited through one of the names. -/
theorem mem_inheritedProperties_iff (h : Ends api chain names) {p : Property} :
    p ∈ inheritedProperties api chain names ↔ InheritedThrough api names p := by
  simp only [inheritedProperties, List.mem_flatMap, List.mem_filterMap]
  constructor
  · rintro ⟨d, ⟨n, hn, hd⟩, e, he, hp⟩
    exact ⟨n, hn, d, hd, e, reaches_of_mem_lineageFrom he, hp⟩
  · rintro ⟨n, hn, d, hd, e, he, hp⟩
    have hends := h d (List.mem_filterMap.2 ⟨n, hn, hd⟩)
    exact ⟨d, ⟨n, hn, hd⟩, e, mem_lineageFrom_of_reaches hends he, hp⟩

/-- What is inherited through other names does not change with a type that stands on the way. -/
theorem inheritedProperties_of_same {api' : Model} {name : String} {t : TypeDeclaration}
    (hsame : ∀ n, n ≠ name → api.findType? n = api'.findType? n) (ht : api.findType? name = some t)
    (hname : name ∈ chain) (hnot : name ∉ names) (h : Ends api chain names) :
    Ends api' chain names ∧ inheritedProperties api' chain names =
      inheritedProperties api chain names := by
  have hfound := filterMap_findType?_congr hsame hnot
  have hlineage {d : TypeDeclaration} (hd : d ∈ names.filterMap api.findType?) :
      lineageFrom api' chain d = lineageFrom api chain d :=
        lineageFrom_of_same hsame ht hname (h d hd)
  rw [Ends, inheritedProperties, ← hfound]
  constructor
  · intro d hd
    rw [hlineage hd, h d hd]
  · exact List.flatMap_congr fun d hd => by rw [hlineage hd]

/-- The properties along the lineage of a declaration are its own ones and those that it
inherits. -/
theorem lineage_properties {d : TypeDeclaration} (h : (lineage api d).2 = none) :
    Ends api [d.name] d.supertypes ∧ (lineage api d).1.flatMap (·.properties) =
      d.properties ++ inheritedProperties api [d.name] d.supertypes := by
  obtain ⟨-, hparents, hall⟩ := lineageFrom_eq_none h
  refine ⟨hparents, ?_⟩
  rw [lineage, hall, List.flatMap_cons, List.flatMap_assoc]
  rfl

end

/-! ### Fields of longer lists of properties -/

section

variable {α : Type} {name : α → String} {names : List String} {as bs : List α}

/-- The new members of two rows are those of the first one and then those of the second one. -/
theorem newMembers_append : newMembers name names (as ++ bs) =
    newMembers name names as ++
      newMembers name (names ++ (newMembers name names as).map name) bs := by
  induction as generalizing names with
  | nil => simp [newMembers]
  | cons a r ih =>
    rw [List.cons_append, newMembers, newMembers]
    split
    · exact ih
    · rw [ih, List.cons_append, List.map_cons, List.append_assoc]
      rfl

/-- There are no new members if all names are taken. -/
theorem newMembers_eq_nil_iff : newMembers name names as = [] ↔ ∀ a ∈ as, name a ∈ names := by
  constructor
  · intro h a ha
    rcases name_mem_newMembers name names ha with hold | hnew
    · exact hold
    · simp [h] at hnew
  · intro h
    refine List.eq_nil_iff_forall_not_mem.2 fun a ha => ?_
    exact (newMembers_names name names as).2 a ha (h a ((newMembers_sublist name names as).mem ha))

variable (name as bs) in
/-- More members make no difference exactly if their names are there. -/
theorem map_newMembers_append_eq_iff {β : Type} (f : α → β) :
    (newMembers name [] as).map f = (newMembers name [] (as ++ bs)).map f ↔
    ∀ b ∈ bs, ∃ a ∈ as, name a = name b := by
  rw [newMembers_append, List.map_append, List.self_eq_append_right, List.map_eq_nil_iff,
    newMembers_eq_nil_iff]
  refine forall₂_congr fun b _ => ?_
  rw [List.nil_append, List.mem_map]
  constructor
  · rintro ⟨a, ha, hname⟩
    exact ⟨a, (newMembers_sublist name [] as).mem ha, hname⟩
  · rintro ⟨a, ha, hname⟩
    rcases name_mem_newMembers name [] ha with hno | hnew
    · cases hno
    · obtain ⟨c, hc, hca⟩ := List.mem_map.1 hnew
      exact ⟨c, hc, hca.trans hname⟩

end

/-! ### Structs in a draft -/

/-- The payload of an operation whose first body has properties is a new struct. -/
theorem BodyDrafted.payload_new {p : Package} {path name : String} {api : Model} {m : Method}
    {contentType : Option String} {args : List Arg} {ds : List Definition} {packages : List String}
    (h : BodyDrafted p path name api m contentType args ds packages)
    (hnew : ¬HasStruct p path (name ++ "Payload")) {body : Body} {rest : List Body}
    (hbodies : m.allBodies = body :: rest) (hproperties : body.properties ≠ []) :
    ds = [.struct (payloadStruct api name body)] ∧
      (lineage api (payloadDeclaration api (name ++ "Payload") body)).2 = Option.none := by
  have hstands : standsForItself p api body = .ok false := by simp [standsForItself, hproperties]
  cases h with
  | none hnil => simp [hnil] at hbodies
  | json hcons _ hpayload =>
    obtain ⟨rfl, rfl⟩ := List.cons.inj (hbodies.symm.trans hcons)
    cases hpayload with
    | itself hself => exact absurd (hself.symm.trans hstands) (by simp)
    | there _ hthere => exact absurd hthere hnew
    | new _ hacyclic => exact ⟨rfl, hacyclic⟩

section

variable {depth : Option Int} {api : Model} {names notes : List String} {u : Unit} {d' : Draft}

/-- The struct of a type that is an object and the first one of its identifier. -/
theorem lookup_type
    (hrun : (draftDefinitions depth api).run ⟨(Package.empty.reserve names).1, notes⟩ = .ok u d')
    {t : TypeDeclaration} (ht : t ∈ distinctTypes api) (hobject : isObjectType api t = .ok true) :
    d'.package.lookup (exportedName t.name) =
      some (.struct (structFor api (exportedName t.name) t)) ∧
      (lineage api t).2 = none := by
  constructor
  · obtain ⟨c, hc⟩ := draftDefinitions_reserved_eq_ok hrun
    obtain ⟨x, hx, isObject, hisObject, rfl⟩ := hc.exists_model ht
    obtain rfl := Except.ok.inj (hobject.symm.trans hisObject)
    exact hc.wellFormed_end.lookup_eq_some_iff.2
      ⟨hc.mem_definitions.2 (.inl hx), name_modelDefinition api t true⟩
  · simp only [draftDefinitions, Steps.run_bind_eq_ok, Drafting.run_change,
      EStateM.Result.ok.injEq] at hrun
    obtain ⟨_, _, ⟨-, rfl⟩, _, e, hmodels, -⟩ := hrun
    obtain ⟨-, _, ds, -, hall⟩ := isDrafted_of_reserved hmodels
    exact lineage_ends_of_isDrafted hall ht hobject

/-- The struct for the payload of an operation whose first body has properties. -/
theorem lookup_payload {entries : List (Value × Value)} (hapi : buildModel entries = .ok api)
    (hrun : (draftDefinitions depth api).run ⟨(Package.empty.reserve names).1, notes⟩ = .ok u d')
    {o : Resource × Method} (ho : o ∈ api.operations) {body : Body} {rest : List Body}
    (hbodies : o.2.allBodies = body :: rest) (hproperties : body.properties ≠ []) :
    ∃ func, configuredName o.1 o.2 depth = .ok func ∧
      d'.package.lookup (func ++ "Payload") = some (.struct (payloadStruct api func body)) ∧
      (lineage api (payloadDeclaration api (func ++ "Payload") body)).2 = none := by
  have hverbs : ∀ o ∈ api.operations, o.2.verb ∈ verbs :=
    fun o ho => mem_verbs_of_buildModel hapi o ho
  obtain ⟨c, hc⟩ := draftDefinitions_reserved_eq_ok hrun
  obtain ⟨x, hx, rfl, _, _, hdrafted⟩ := hc.methods.exists_drafted ho
  obtain ⟨_, p, -, hbody, hnew, -⟩ := hc.exists_stage hverbs hx
  obtain ⟨hpayload, hacyclic⟩ := hbody.payload_new hnew hbodies hproperties
  refine ⟨x.name, hdrafted.name, hc.wellFormed_end.lookup_eq_some_iff.2 ⟨?_, rfl⟩, hacyclic⟩
  refine hc.mem_definitions.2 (.inr (List.mem_cons_of_mem _ (List.mem_flatMap.2 ⟨x, hx, ?_⟩)))
  simp [MethodParts.definitions, hpayload]

end

/-! ### Bodies and named types -/

section

variable {api : Model}

variable (api) in
/-- The supertype of a payload counts only if it is declared, so it may be left there if it is
not. -/
theorem filterMap_payloadSupertypes (name : String) (body : Body) :
    (payloadDeclaration api name body).supertypes.filterMap api.findType? =
      [body.type.kind].filterMap api.findType? := by
  cases hfound : api.findType? body.type.kind with
  | none => simp [payloadDeclaration, hfound]
  | some d => simp [payloadDeclaration, hfound]

/-- The properties of a payload are those of the body and those that its kind inherits. -/
theorem payloadStruct_fields {name : String} {body : Body}
    (h : (lineage api (payloadDeclaration api (name ++ "Payload") body)).2 = none) :
    Ends api [name ++ "Payload"] [body.type.kind] ∧ (payloadStruct api name body).fields =
      (newProperties [] (body.properties ++ inheritedProperties api [name ++ "Payload"]
        [body.type.kind])).map propertyField := by
  obtain ⟨hends, hlineage⟩ := lineage_properties h
  have hsupertypes := filterMap_payloadSupertypes api (name ++ "Payload") body
  rw [Ends, hsupertypes] at hends
  rw [inheritedProperties, hsupertypes] at hlineage
  refine ⟨hends, ?_⟩
  rw [payloadStruct, structFor, structProperties, hlineage]
  rfl

end

/-- A declared type with properties describes an object. -/
theorem isObjectType_of_properties {api : Model} {t : TypeDeclaration} (h : t.properties ≠ []) :
    isObjectType api t = .ok true := by
  have hany : (lineage api t).1.any isObjectByItself = true := by
    rw [lineage, lineageFrom_of_notMem List.not_mem_nil, List.any_cons, isObjectByItself]
    simp [h]
  rw [isObjectType]
  exact if_pos hany

/-- The fields of two structs with the same own properties, where one inherits more than the
other. -/
theorem fields_eq_iff {own first second shared more : List Property}
    (h : first = own ++ shared ∧ second = own ++ (shared ++ more) ∨
      first = own ++ (shared ++ more) ∧ second = own ++ shared) :
    (newProperties [] first).map propertyField = (newProperties [] second).map propertyField ↔
      ∀ p ∈ more, ∃ q ∈ own ++ shared, exportedName q.name = exportedName p.name := by
  have hmore := map_newMembers_append_eq_iff (fun p : Property => exportedName p.name)
    (own ++ shared) more propertyField
  rw [List.append_assoc] at hmore
  rcases h with ⟨rfl, rfl⟩ | ⟨rfl, rfl⟩
  · exact hmore
  · exact eq_comm.trans hmore

/-- What two rows of names inherit of which one is longer: the longer row decides on which way the
walks come. -/
theorem exists_chain {api : Model} {first second shared inline named disputed : List String}
    (h₁ : Ends api first (shared ++ inline)) (h₂ : Ends api second (shared ++ named))
    (hsides : inline = [] ∧ named = disputed ∨ inline = disputed ∧ named = []) :
    ∃ chain, Ends api chain shared ∧ Ends api chain disputed ∧
      (inheritedProperties api first (shared ++ inline) = inheritedProperties api chain shared ∧
          inheritedProperties api second (shared ++ named) =
            inheritedProperties api chain shared ++ inheritedProperties api chain disputed ∨
        inheritedProperties api first (shared ++ inline) =
            inheritedProperties api chain shared ++ inheritedProperties api chain disputed ∧
          inheritedProperties api second (shared ++ named) =
            inheritedProperties api chain shared) := by
  obtain ⟨hshared₁, hinline⟩ := ends_append.1 h₁
  obtain ⟨hshared₂, hnamed⟩ := ends_append.1 h₂
  rcases hsides with ⟨rfl, rfl⟩ | ⟨rfl, rfl⟩
  · refine ⟨second, hshared₂, hnamed, .inl ⟨?_, inheritedProperties_append⟩⟩
    rw [List.append_nil, inheritedProperties_eq hshared₁ hshared₂]
  · refine ⟨first, hshared₁, hinline, .inr ⟨inheritedProperties_append, ?_⟩⟩
    rw [List.append_nil, inheritedProperties_eq hshared₂ hshared₁]

/-- When an inline body and a named type agree. Take two documents of which the second one declares
one more type, by a mapping with properties and a type that is an expression or a list of names. Let
an operation of the first document have the same mapping as its first body, and let clients be
drafted for both documents. Then the first client has a struct for the payload, the second one has a
struct for the named type, and these structs have the same fields exactly if each property inherited
through a disputed supertype has the identifier of a property that the mapping declares or that is
inherited through a shared one. -/
theorem inlineBody_agrees_iff {entries₁ entries₂ entries : List (Value × Value)} {api₁ api₂ : Model}
    {name : String} {raw : Value} (hadds : AddsType entries₁ entries₂ api₁ api₂ name raw)
    (hraw : raw.opened = .mapping entries) (htype : GivesType (declaredType entries))
    {depth : Option Int} {names notes : List String} {u₁ u₂ : Unit} {d₁ d₂ : Draft}
    (hrun₁ : (draftDefinitions depth api₁).run ⟨(Package.empty.reserve names).1, notes⟩ = .ok u₁ d₁)
    (hrun₂ : (draftDefinitions depth api₂).run ⟨(Package.empty.reserve names).1, notes⟩ = .ok u₂ d₂)
    {o : Resource × Method} (ho : o ∈ api₁.operations) {contentType : String} {body : Body}
    {rest : List Body} (hbody : buildBody contentType raw = .ok body)
    (hbodies : o.2.allBodies = body :: rest) (hproperties : body.properties ≠ []) :
    ∃ shared disputed, SupertypeSplit (declaredType entries) shared disputed ∧
      ∃ func s t, configuredName o.1 o.2 depth = .ok func ∧
        d₁.package.lookup (func ++ "Payload") = some (.struct s) ∧
        d₂.package.lookup (exportedName name) = some (.struct t) ∧
        (s.fields = t.fields ↔ ∀ p, InheritedThrough api₁ disputed p →
          ∃ q, (q ∈ body.properties ∨ InheritedThrough api₁ shared q) ∧
            exportedName q.name = exportedName p.name) := by
  obtain ⟨hown, hdescribe⟩ := buildBody_eq_ok hraw hbody
  obtain ⟨shared, disputed, hsplit⟩ := exists_supertypeSplit htype
  obtain ⟨inline, named, hinline, hnamed, hsides⟩ := hsplit.supertypes hraw hdescribe
  obtain ⟨t, ht, hname, hfound, hdistinct, hsame⟩ := hadds.findType? hraw
  obtain ⟨-, hsupertypes, hown'⟩ := buildType_of_mapping hraw ht
  have hsupertypes : t.supertypes = shared ++ named := Except.ok.inj (hsupertypes.symm.trans hnamed)
  have hown : t.properties = body.properties := Except.ok.inj (hown'.symm.trans hown)
  obtain ⟨hlookup₂, hacyclic₂⟩ :=
    lookup_type hrun₂ hdistinct (isObjectType_of_properties (hown ▸ hproperties))
  obtain ⟨hends₂, hlineage₂⟩ := lineage_properties hacyclic₂
  have hnot : name ∉ t.supertypes := notMem_supertypes hfound (by simp [hname]) hacyclic₂
  obtain ⟨hends₂, hinherited₂⟩ :=
    inheritedProperties_of_same hsame hfound (by simp [hname]) hnot hends₂
  obtain ⟨func, hfunc, hlookup₁, hacyclic₁⟩ :=
    lookup_payload hadds.built₁ hrun₁ ho hbodies hproperties
  obtain ⟨hends₁, hfields₁⟩ := payloadStruct_fields hacyclic₁
  refine ⟨shared, disputed, hsplit, func, _, _, hfunc, hlookup₁, hname ▸ hlookup₂, ?_⟩
  rw [hfields₁, structFor, structProperties, hlineage₂, ← hinherited₂, hown]
  rw [hinline] at hends₁ ⊢
  rw [hsupertypes] at hends₂ ⊢
  obtain ⟨chain, hshared, hdisputed, hlists⟩ := exists_chain hends₁ hends₂ hsides
  rw [fields_eq_iff (hlists.imp (fun h => ⟨by rw [h.1], by rw [h.2]⟩) fun h =>
    ⟨by rw [h.1], by rw [h.2]⟩)]
  refine forall_congr' fun p => ?_
  simp only [mem_inheritedProperties_iff hdisputed, List.mem_append,
    mem_inheritedProperties_iff hshared]

/-- A type of what has a name, and one that inherits from it and adds a rank. -/
def rankTypes : List (Value × Value) :=
  [(.text "Named", .mapping [(.text "properties", .mapping [(.text "name", .text "string")])]),
   (.text "Ranked", .mapping
     [(.text "type", .text "Named"),
       (.text "properties", .mapping [(.text "rank", .text "integer")])])]

/-- A declaration of a property and of some supertypes. -/
def signup (supertypes : List String) : List (Value × Value) :=
  [(.text "type", .list (supertypes.map .text)),
   (.text "properties", .mapping [(.text "email", .text "string")])]

/-- A document with some types and an operation with a body. -/
def signupDocument (types : List (Value × Value)) (body : Value) : List (Value × Value) :=
  [(.text "title", .text "T"), (.text "types", .mapping types),
   (.text "/users", .mapping [(.text "post", .mapping
     [(.text "body", .mapping [(.text "application/json", body)])])])]

/-- The document in which the declaration is the body of the operation. -/
def inlineSignup (supertypes : List String) : List (Value × Value) :=
  signupDocument rankTypes (.mapping (signup supertypes))

/-- The document in which the declaration stands under a name, which the body has. -/
def namedSignup (supertypes : List String) : List (Value × Value) :=
  signupDocument (rankTypes ++ [(.text "Signup", .mapping (signup supertypes))]) (.text "Signup")

/-- What is built of the declaration as a body. -/
def signupBody (supertype : String) : Body :=
  ⟨"application/json", .named supertype true, [⟨"email", .named "string" true, "email"⟩]⟩

/-- The field of the declaration itself. -/
def emailField : Field := ⟨"Email", "string", some (jsonTag "email")⟩

/-- The field that it inherits from `Named`. -/
def nameField : Field := ⟨"Name", "string", some (jsonTag "name")⟩

/-- The field that it inherits from `Ranked`. -/
def rankField : Field := ⟨"Rank", "int", some (jsonTag "rank")⟩

/-- Whether the struct of a name in a package has certain fields. -/
def hasFields (p : Package) (name : String) (fields : List Field) : Bool :=
  decide (p.lookup name = some (.struct ⟨name, fields⟩))

/-- The fields that are drafted for the documents, with the supertypes in either order. -/
theorem draft_signups :
    (draftedPackage? ["Client"] (some 0) (inlineSignup ["Ranked", "Named"])).any
      (hasFields · "CreateUsersPayload" [emailField, rankField, nameField]) = true ∧
    (draftedPackage? ["Client"] (some 0) (namedSignup ["Ranked", "Named"])).any
      (hasFields · "Signup" [emailField, rankField, nameField]) = true ∧
    (draftedPackage? ["Client"] (some 0) (inlineSignup ["Named", "Ranked"])).any
      (hasFields · "CreateUsersPayload" [emailField, nameField]) = true ∧
    (draftedPackage? ["Client"] (some 0) (namedSignup ["Named", "Ranked"])).any
      (hasFields · "Signup" [emailField, nameField, rankField]) = true := by
  delta draftedPackage? draftDefinitions generateModels generateModel generateEndpoints
    generateMethods generateMethod generateBody generatePayload standsForItself
  simp only [isObjectType, generateStruct, lineage_eq_upTo]
  refine ⟨?_, ?_, ?_, ?_⟩
  · decide +kernel
  · decide +kernel
  · decide +kernel
  · decide +kernel

/-- Whether the API of the first document has an operation with the declaration as its only body,
and the second one a type `Signup` that is new and the first one of its identifier. -/
def buildsSignup (supertypes : List String) (supertype : String) : Bool :=
  ((buildModel (inlineSignup supertypes)).toOption.any fun api => (api.findType? "Signup").isNone &&
    api.operations.any fun o => decide (o.2.allBodies = [signupBody supertype]) &&
      decide ((configuredName o.1 o.2 (some 0)).toOption = some "CreateUsers")) &&
  (buildModel (namedSignup supertypes)).toOption.any fun api =>
    decide ((firstType? api "Signup").map (·.name) = some "Signup")

/-- What the checks of the two documents and of their drafts say. -/
theorem exists_signup {supertypes : List String} {supertype : String} {fields₁ fields₂ : List Field}
    (hbuilds : buildsSignup supertypes supertype = true)
    (hinline : (draftedPackage? ["Client"] (some 0) (inlineSignup supertypes)).any
      (hasFields · "CreateUsersPayload" fields₁) = true)
    (hnamed : (draftedPackage? ["Client"] (some 0) (namedSignup supertypes)).any
      (hasFields · "Signup" fields₂) = true) :
    ∃ api₁ api₂ d₁ d₂,
      AddsType (inlineSignup supertypes) (namedSignup supertypes) api₁ api₂ "Signup"
        (.mapping (signup supertypes)) ∧
      (draftDefinitions (some 0) api₁).run ⟨(Package.empty.reserve ["Client"]).1, []⟩ = .ok () d₁ ∧
      (draftDefinitions (some 0) api₂).run ⟨(Package.empty.reserve ["Client"]).1, []⟩ = .ok () d₂ ∧
      (∃ o ∈ api₁.operations, o.2.allBodies = [signupBody supertype] ∧
        configuredName o.1 o.2 (some 0) = .ok "CreateUsers") ∧
      d₁.package.lookup "CreateUsersPayload" = some (.struct ⟨"CreateUsersPayload", fields₁⟩) ∧
      d₂.package.lookup "Signup" = some (.struct ⟨"Signup", fields₂⟩) := by
  obtain ⟨p₁, hp₁, hfields₁⟩ := (Option.any_eq_true _ _).1 hinline
  obtain ⟨p₂, hp₂, hfields₂⟩ := (Option.any_eq_true _ _).1 hnamed
  obtain ⟨api₁, d₁, hapi₁, hrun₁, rfl⟩ := draftedPackage?_eq_some hp₁
  obtain ⟨api₂, d₂, hapi₂, hrun₂, rfl⟩ := draftedPackage?_eq_some hp₂
  simp only [buildsSignup, Option.any_eq_true, toOption_eq_some_iff, hapi₁, hapi₂, Bool.and_eq_true,
    List.any_eq_true, decide_eq_true_eq, Except.ok.injEq, exists_eq_left',
    Option.isNone_iff_eq_none] at hbuilds
  obtain ⟨⟨hfresh, hoperation⟩, hfirst⟩ := hbuilds
  have hadds : AddsType (inlineSignup supertypes) (namedSignup supertypes) api₁ api₂ "Signup"
      (.mapping (signup supertypes)) :=
    { built₁ := hapi₁, built₂ := hapi₂, entry := ⟨rankTypes, [], rfl, rfl⟩, fresh :=
      hfresh, first := hfirst }
  exact ⟨api₁, api₂, d₁, d₂, hadds, hrun₁, hrun₂, hoperation, of_decide_eq_true hfields₁,
    of_decide_eq_true hfields₂⟩

/-- What inherits from a type, and then from one that this type inherits from, has the same fields
as a body and under a name. -/
theorem inlineBody_agrees_ranked : ∃ api₁ api₂ d₁ d₂,
    AddsType (inlineSignup ["Ranked", "Named"]) (namedSignup ["Ranked", "Named"]) api₁ api₂ "Signup"
      (.mapping (signup ["Ranked", "Named"])) ∧
    GivesType (declaredType (signup ["Ranked", "Named"])) ∧
    (draftDefinitions (some 0) api₁).run ⟨(Package.empty.reserve ["Client"]).1, []⟩ = .ok () d₁ ∧
    (draftDefinitions (some 0) api₂).run ⟨(Package.empty.reserve ["Client"]).1, []⟩ = .ok () d₂ ∧
    ∃ o ∈ api₁.operations, ∃ body,
      buildBody "application/json" (.mapping (signup ["Ranked", "Named"])) = .ok body ∧
      o.2.allBodies = [body] ∧ body.properties ≠ [] ∧
      ∃ func s t, configuredName o.1 o.2 (some 0) = .ok func ∧
        d₁.package.lookup (func ++ "Payload") = some (.struct s) ∧
        d₂.package.lookup (exportedName "Signup") = some (.struct t) ∧ s.fields = t.fields ∧
        ∀ p, InheritedThrough api₁ ["Named"] p →
          ∃ q, (q ∈ body.properties ∨ InheritedThrough api₁ ["Ranked"] q) ∧
            exportedName q.name = exportedName p.name := by
  have hbuilds : buildsSignup ["Ranked", "Named"] "Ranked" = true := by decide +kernel
  obtain ⟨api₁, api₂, d₁, d₂, hadds, hrun₁, hrun₂, ⟨o, ho, hbodies, hname⟩, hlookup₁, hlookup₂⟩ :=
    exists_signup hbuilds draft_signups.1 draft_signups.2.1
  have hnames : ∀ n ∈ ["Ranked", "Named"], IsTypeName n := by
    unfold IsTypeName
    decide +kernel
  have htype : GivesType (declaredType (signup ["Ranked", "Named"])) := .inr ⟨_, rfl, hnames⟩
  have hbody : buildBody "application/json" (.mapping (signup ["Ranked", "Named"])) =
    .ok (signupBody "Ranked") :=
    toOption_eq_some_iff.1 (by decide +kernel)
  obtain ⟨shared, disputed, hsplit, func, s, t, hfunc, hs, ht, hiff⟩ :=
    inlineBody_agrees_iff hadds rfl htype hrun₁ hrun₂ ho hbody hbodies (by decide)
  obtain ⟨rfl, rfl⟩ := hsplit.unique (.names hnames)
  have hfields : s.fields = t.fields := by
    obtain rfl := Except.ok.inj (hname.symm.trans hfunc)
    have hsignup : exportedName "Signup" = "Signup" := by decide +kernel
    have hs' := hlookup₁.symm.trans hs
    have ht' := hlookup₂.symm.trans (hsignup ▸ ht)
    cases hs'
    cases ht'
    rfl
  exact ⟨api₁, api₂, d₁, d₂, hadds, htype, hrun₁, hrun₂, o, ho, _, hbody, hbodies, by
    decide, func, s, t, hfunc, hs, ht, hfields, hiff.1 hfields⟩

/-- What inherits from a type, and then from one that adds a property to it, has this property under
a name, but not as a body. -/
theorem not_inlineBody_agrees_ranked : ∃ api₁ api₂ d₁ d₂,
    AddsType (inlineSignup ["Named", "Ranked"]) (namedSignup ["Named", "Ranked"]) api₁ api₂ "Signup"
      (.mapping (signup ["Named", "Ranked"])) ∧
    GivesType (declaredType (signup ["Named", "Ranked"])) ∧
    (draftDefinitions (some 0) api₁).run ⟨(Package.empty.reserve ["Client"]).1, []⟩ = .ok () d₁ ∧
    (draftDefinitions (some 0) api₂).run ⟨(Package.empty.reserve ["Client"]).1, []⟩ = .ok () d₂ ∧
    ∃ o ∈ api₁.operations, ∃ body,
      buildBody "application/json" (.mapping (signup ["Named", "Ranked"])) = .ok body ∧
      o.2.allBodies = [body] ∧ isJsonContentType body.contentType = true ∧ body.properties ≠ [] ∧
      configuredName o.1 o.2 (some 0) = .ok "CreateUsers" ∧
      d₁.package.lookup "CreateUsersPayload" =
        some (.struct ⟨"CreateUsersPayload", [emailField, nameField]⟩) ∧
      d₂.package.lookup "Signup" =
        some (.struct ⟨"Signup", [emailField, nameField, rankField]⟩) := by
  have hbuilds : buildsSignup ["Named", "Ranked"] "Named" = true := by decide +kernel
  obtain ⟨api₁, api₂, d₁, d₂, hadds, hrun₁, hrun₂, ⟨o, ho, hbodies, hname⟩, hlookup₁, hlookup₂⟩ :=
    exists_signup hbuilds draft_signups.2.2.1 draft_signups.2.2.2
  have hnames : ∀ n ∈ ["Named", "Ranked"], IsTypeName n := by
    unfold IsTypeName
    decide +kernel
  have hbody : buildBody "application/json" (.mapping (signup ["Named", "Ranked"])) =
    .ok (signupBody "Named") :=
    toOption_eq_some_iff.1 (by decide +kernel)
  exact ⟨api₁, api₂, d₁, d₂, hadds, .inr ⟨_, rfl, hnames⟩, hrun₁, hrun₂, o, ho, _, hbody,
    hbodies, by decide +kernel, by decide, hname, hlookup₁, hlookup₂⟩

end RamlClient.Client
