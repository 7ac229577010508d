import RamlClient.Proofs.Building
import RamlClient.Proofs.HeldTypes
import RamlClient.Proofs.Steps
import RamlClient.Proofs.TypeReading
/-!
# The descriptors of a built model

However a type is written, the parts of its descriptor belong together: elements are those of an
array, alternatives are those of a union, and nothing has both. Every descriptor of a model that is
built from a document is of this shape, and the parameters of its paths are required.
-/

namespace RamlClient.Api

/-! ### Regular descriptors -/

/-- The parts of a descriptor belong together: what has elements is an array of regular ones, and
what has alternatives is a union of at least two. -/
def Regular : TypeDescriptor → Prop
  | ⟨kind, _, some items, members⟩ => kind = "array" ∧ members = [] ∧ Regular items
  | ⟨kind, _, none, members⟩ => members = [] ∨ (kind = "union" ∧ 1 < members.length)

/-- The descriptor of a name is regular. -/
theorem regular_named (kind : String) (required : Bool) : Regular (.named kind required) := .inl rfl

/-- An array of regular elements is regular. -/
theorem Regular.arrayOf {items : TypeDescriptor} (h : Regular items) (required : Bool) :
    Regular (.arrayOf items required) := ⟨rfl, rfl, h⟩

/-- Whether a value is required does not matter. -/
theorem Regular.withRequired {d : TypeDescriptor} (h : Regular d) (required : Bool) :
    Regular { d with required } := by
  obtain ⟨kind, r, items, members⟩ := d
  cases items with
  | none => exact h
  | some items => exact h

/-! ### Type expressions -/

/-- A rejected value gives no result. -/
theorem reject_ne_ok {α : Type} {cause : String → ModelError} {v : Value} {a : α} :
    reject cause v ≠ .ok a := by
  intro h
  obtain ⟨_, -, h⟩ := Building.bind_eq_ok.1 h
  cases h

open TypeExpression in
/-- What a type expression stands for is regular. -/
theorem regular_descriptorWithin (n : Nat) (cs : List Char) (required : Bool) :
    Regular (descriptorWithin n cs required) := by
  induction n generalizing cs required with
  | zero => exact regular_named _ _
  | succ n ih =>
    have hread := readOnce_descriptorBy (descriptorWithin n) cs required
    rw [descriptorWithin]
    generalize descriptorBy (descriptorWithin n) cs required = d at hread ⊢
    cases hread with
    | blank _ => exact regular_named _ _
    | schema _ => exact regular_named _ _
    | onlyNil _ _ _ => exact regular_named _ _
    | optional _ _ _ => exact ih _ _
    | union _ hkept => exact .inr ⟨rfl, by rwa [List.length_map]⟩
    | array _ _ => exact (ih _ _).arrayOf required
    | group _ _ => exact ih _ _
    | name _ _ => exact regular_named _ _

/-- What a text stands for as a type expression is regular. -/
theorem regular_parse (s : String) (required : Bool) : Regular (TypeExpression.parse s required) :=
  regular_descriptorWithin _ _ _

/-! ### Declarations -/

/-- What a declaration stands for, by its form. The declarations inside it are described by
`describe`. -/
inductive DescribedOnce (describe : Value → Bool → Building TypeDescriptor) (raw : Value)
    (required : Bool) :
    TypeDescriptor → Prop where
  /-- Nothing is declared. -/
  | null (hraw : raw.opened = .null) :
      DescribedOnce describe raw required (.named "string" required)
  /-- The declaration is a type expression. -/
  | text {s : String} (hraw : raw.opened = .text s) :
    DescribedOnce describe raw required (TypeExpression.parse s required)
  /-- The type is an array whose elements are not declared. -/
  | anyArray {entries : List (Value × Value)} (hraw : raw.opened = .mapping entries)
    (hfacet : typeFacet entries = .text "array") (hitems : facet entries "items" = .null) :
    DescribedOnce describe raw required (.arrayOf (.named "any" true) required)
  /-- The type is an array whose elements are declared. -/
  | array {entries : List (Value × Value)} {d : TypeDescriptor}
      (hraw : raw.opened = .mapping entries) (hfacet : typeFacet entries = .text "array")
      (hitems : facet entries "items" ≠ .null)
      (h : describe (facet entries "items") true = .ok d) :
    DescribedOnce describe raw required (.arrayOf d required)
  /-- The type is a type expression. -/
  | expression {entries : List (Value × Value)} {s : String} (hraw : raw.opened = .mapping entries)
    (hfacet : typeFacet entries = .text s) (hs : s ≠ "array") :
    DescribedOnce describe raw required (TypeExpression.parse s required)
  /-- The type is a declaration of its own. -/
  | nested {entries : List (Value × Value)} {d : TypeDescriptor}
      (hraw : raw.opened = .mapping entries) (hmapping : (typeFacet entries).isMapping = true)
      (h : describe (typeFacet entries) required = .ok d) :
    DescribedOnce describe raw required { d with required }

/-- A descriptor is made from those inside of it, which may be one level deeper. -/
theorem describedOnce_of_describeWithin {depth : Nat} {raw : Value} {required : Bool}
    {d : TypeDescriptor} (h : describeWithin (depth + 1) raw required = .ok d) :
    DescribedOnce (describeWithin depth) raw required d := by
  rw [describeWithin] at h
  split at h
  · rename_i hraw
    cases h
    exact .null hraw
  · rename_i s hraw
    cases h
    exact .text hraw
  · rename_i entries hraw
    split at h
    · rename_i s hfacet
      split at h
      · rename_i harray
        subst harray
        split at h
        · rename_i hitems
          cases h
          exact .anyArray hraw hfacet hitems
        · rename_i hitems
          obtain ⟨items, hread, h⟩ := Building.bind_eq_ok.1 h
          cases h
          exact .array hraw hfacet hitems hread
      · rename_i harray
        cases h
        exact .expression hraw hfacet harray
    · split at h
      · rename_i hmapping
        obtain ⟨inner, hinner, h⟩ := Building.bind_eq_ok.1 h
        cases h
        exact .nested hraw hmapping hinner
      · exact absurd h reject_ne_ok
  · exact absurd h reject_ne_ok

/-- What a declaration stands for is regular. -/
theorem regular_describeWithin {depth : Nat} {raw : Value} {required : Bool} {d : TypeDescriptor}
    (h : describeWithin depth raw required = .ok d) : Regular d := by
  induction depth generalizing raw required d with
  | zero => cases h
  | succ depth ih =>
    cases describedOnce_of_describeWithin h with
    | null _ => exact regular_named _ _
    | text _ => exact regular_parse _ _
    | anyArray _ _ _ => exact (regular_named _ _).arrayOf required
    | array _ _ _ hitems => exact (ih hitems).arrayOf required
    | expression _ _ _ => exact regular_parse _ _
    | nested _ _ hinner => exact (ih hinner).withRequired required

/-- What a declaration stands for is regular at any depth. -/
theorem regular_describe {raw : Value} {required : Bool} {d : TypeDescriptor}
    (h : describe raw required = .ok d) : Regular d := regular_describeWithin h

/-- A built property has the type that its value describes, and is called in JSON texts by its
name. -/
theorem of_mem_buildProperties {raw : Value} {properties : List Property}
    (h : buildProperties raw = .ok properties) {p : Property} (hp : p ∈ properties) :
    (∃ value required, describe value required = .ok p.type) ∧ p.wireName = p.name := by
  obtain ⟨entries, -, h⟩ := Building.bind_eq_ok.1 h
  obtain ⟨entry, -, h⟩ := Building.exists_of_mem_mapM h hp
  simp only [buildProperty, Building.bind_eq_ok] at h
  obtain ⟨_, -, type, htype, h⟩ := h
  cases h
  exact ⟨⟨_, _, htype⟩, rfl⟩

/-- The properties of a section have regular types. -/
theorem regular_of_buildProperties {raw : Value} {properties : List Property}
    (h : buildProperties raw = .ok properties) : ∀ p ∈ properties, Regular p.type := by
  intro p hp
  obtain ⟨⟨value, required, htype⟩, -⟩ := of_mem_buildProperties h hp
  exact regular_describe htype

/-- The parameters of a section have regular types. -/
theorem regular_of_buildParameters {raw : Value} {parameters : List Parameter}
    (h : buildParameters raw = .ok parameters) : ∀ p ∈ parameters, Regular p.type := by
  intro p hp
  obtain ⟨properties, hproperties, h⟩ := Building.bind_eq_ok.1 h
  cases h
  obtain ⟨q, hq, rfl⟩ := List.mem_map.1 hp
  exact regular_of_buildProperties hproperties q hq

/-- A built type has the descriptor of its value and the properties of a section, or no properties.
The rest of it is put together in the same way whatever the value is. -/
theorem buildType_eq_ok {entry : Value × Value} {t : TypeDeclaration}
    (h : buildType entry = .ok t) :
    describe entry.2 true = .ok t.descriptor ∧
      (t.properties = [] ∨ ∃ raw, buildProperties raw = .ok t.properties) := by
  obtain ⟨name, -, h⟩ := Building.bind_eq_ok.1 h
  have hrest {supertypes : List String} {properties : List Property}
      (h : (do
        let descriptor ← describe entry.2 true
        pure (⟨name, supertypes, properties, descriptor⟩ : TypeDeclaration)) = .ok t) :
      describe entry.2 true = .ok t.descriptor ∧ t.properties = properties := by
    obtain ⟨descriptor, hdescriptor, h⟩ := Building.bind_eq_ok.1 h
    cases h
    exact ⟨hdescriptor, rfl⟩
  dsimp only at h
  split at h
  · exact (hrest h).imp_right .inl
  · exact (hrest h).imp_right .inl
  · obtain ⟨_, -, h⟩ := Building.bind_eq_ok.1 h
    obtain ⟨properties, hproperties, h⟩ := Building.bind_eq_ok.1 h
    obtain ⟨hdescriptor, rfl⟩ := hrest h
    exact ⟨hdescriptor, .inr ⟨_, hproperties⟩⟩
  · cases h

/-- A type of a built model is built from an entry. -/
theorem exists_of_mem_types {entries : List (Value × Value)} {api : Model}
    (h : buildModel entries = .ok api) {t : TypeDeclaration} (ht : t ∈ api.types) :
    ∃ entry, buildType entry = .ok t := by
  obtain ⟨_, -, htypes⟩ := (modelBuilt_of_buildModel h).types
  obtain ⟨entry, -, hentry⟩ := Building.exists_of_mem_mapM htypes ht
  exact ⟨entry, hentry⟩

end RamlClient.Api

namespace RamlClient.Client

open Api

/-! ### Operations -/

/-- The descriptors of a body are regular. -/
def RegularBody (b : Body) : Prop := ∀ d ∈ bodyDescriptors b, Regular d

/-- A body of a regular type with regular properties is regular. -/
theorem RegularBody.mk {contentType : String} {type : TypeDescriptor} {properties : List Property}
    (htype : Regular type) (hproperties : ∀ p ∈ properties, Regular p.type) :
    RegularBody ⟨contentType, type, properties⟩ := by
  intro d hd
  rcases List.mem_cons.1 hd with rfl | hd
  · exact htype
  · obtain ⟨p, hp, rfl⟩ := List.mem_map.1 hd
    exact hproperties p hp

/-- A built body is regular. -/
theorem regularBody_of_buildBody {contentType : String} {raw : Value} {b : Body}
    (h : buildBody contentType raw = .ok b) : RegularBody b := by
  unfold buildBody at h
  split at h
  · cases h
    exact .mk (regular_named _ _) (List.forall_mem_nil _)
  · obtain ⟨properties, hproperties, h⟩ := Building.bind_eq_ok.1 h
    obtain ⟨type, htype, h⟩ := Building.bind_eq_ok.1 h
    cases h
    exact .mk (regular_describe htype) (regular_of_buildProperties hproperties)
  · obtain ⟨type, htype, h⟩ := Building.bind_eq_ok.1 h
    cases h
    exact .mk (regular_describe htype) (List.forall_mem_nil _)

/-- The bodies of a section are regular. -/
theorem regularBody_of_buildBodies {mediaType : String} {raw : Value} {bodies : List Body}
    (h : buildBodies mediaType raw = .ok bodies) : ∀ b ∈ bodies, RegularBody b := by
  have hsingle (h : (do pure [← buildBody mediaType raw]) = .ok bodies) :
    ∀ b ∈ bodies, RegularBody b := by
    obtain ⟨body, hbody, h⟩ := Building.bind_eq_ok.1 h
    cases h
    exact List.forall_mem_singleton.2 (regularBody_of_buildBody hbody)
  unfold buildBodies at h
  split at h
  · cases h
    exact List.forall_mem_nil _
  · obtain ⟨_, -, h⟩ := Building.bind_eq_ok.1 h
    split at h
    · intro b hb
      obtain ⟨e, -, he⟩ := Building.exists_of_mem_mapM h hb
      obtain ⟨_, -, he⟩ := Building.bind_eq_ok.1 he
      exact regularBody_of_buildBody he
    · exact hsingle h
  · exact hsingle h

/-- The descriptors of a trait are regular. -/
structure RegularTrait (t : Trait) : Prop where
  /-- Those of its query parameters. -/
  queryParameters : ∀ p ∈ t.queryParameters, Regular p.type
  /-- Those of its bodies. -/
  bodies : ∀ b ∈ t.bodies, RegularBody b

/-- The traits of a document are regular. -/
theorem regularTrait_of_buildTraits {mediaType : String} {raw : Value} {traits : List Trait}
    (h : buildTraits mediaType raw = .ok traits) : ∀ t ∈ traits, RegularTrait t := by
  intro t ht
  obtain ⟨entries, -, h⟩ := Building.bind_eq_ok.1 h
  obtain ⟨entry, -, h⟩ := Building.exists_of_mem_mapM h ht
  simp only [buildTrait, Building.bind_eq_ok] at h
  obtain ⟨_, -, _, -, queryParameters, hquery, bodies, hbodies, h⟩ := h
  cases h
  exact ⟨regular_of_buildParameters hquery, regularBody_of_buildBodies hbodies⟩

/-- What is referred to are declared traits. -/
theorem mem_of_traitRefs {traits found : List Trait} {raw : Value}
    (h : traitRefs traits raw = .ok found) :
    ∀ t ∈ found, t ∈ traits := by
  intro t ht
  obtain ⟨mention, -, h⟩ := Building.exists_of_mem_mapM h ht
  obtain ⟨name, -, h⟩ := Building.bind_eq_ok.1 h
  split at h
  · rename_i s hs
    cases h
    exact List.mem_of_find?_eq_some hs
  · cases h

/-- The descriptors of an operation are regular, but for those of its path. -/
structure RegularMethod (m : Method) : Prop where
  /-- Those of its query parameters. -/
  queryParameters : ∀ p ∈ m.allQueryParameters, Regular p.type
  /-- Those of its bodies. -/
  bodies : ∀ b ∈ m.allBodies, RegularBody b
  /-- Those of its responses. -/
  responses : ∀ r ∈ m.responses, ∀ b ∈ r.bodies, RegularBody b

/-- A method is regular if the traits of the document are. -/
theorem regularMethod_of_buildMethod {ctx : BuildContext} {inherited : List Trait} {verb : String}
    {raw : Value} {m : Method} (htraits : ∀ t ∈ ctx.traits, RegularTrait t)
    (hinherited : ∀ t ∈ inherited, t ∈ ctx.traits)
    (h : buildMethod ctx inherited verb raw = .ok m) :
    RegularMethod m := by
  obtain ⟨_, -, hbuilt⟩ := methodBuilt_of_buildMethod h
  obtain ⟨own, hown, htraits'⟩ := hbuilt.traits
  have hall : ∀ t ∈ m.traits, RegularTrait t := by
    intro t ht
    rw [htraits'] at ht
    rcases List.mem_append.1 ht with ht | ht
    · exact htraits t (hinherited t ht)
    · exact htraits t (mem_of_traitRefs hown t ht)
  refine ⟨?_, ?_, ?_⟩
  · intro p hp
    rcases List.mem_append.1 hp with hp | hp
    · exact regular_of_buildParameters hbuilt.queryParameters p hp
    · obtain ⟨t, ht, hp⟩ := List.mem_flatMap.1 hp
      exact (hall t ht).queryParameters p hp
  · intro b hb
    rcases List.mem_append.1 hb with hb | hb
    · exact regularBody_of_buildBodies hbuilt.bodies b hb
    · obtain ⟨t, ht, hb⟩ := List.mem_flatMap.1 hb
      exact (hall t ht).bodies b hb
  · intro r hr
    obtain ⟨entries, -, hresponses⟩ := Building.bind_eq_ok.1 hbuilt.responses
    obtain ⟨entry, -, hr⟩ := Building.exists_of_mem_mapM hresponses hr
    simp only [buildResponse, Building.bind_eq_ok] at hr
    obtain ⟨code, -, bodies, hbodies, hr⟩ := hr
    cases hr
    exact regularBody_of_buildBodies hbodies

/-! ### Parameters of paths -/

/-- A parameter of a path is regular and required. -/
def RegularPathParameter (p : Parameter) : Prop := Regular p.type ∧ p.type.required = true

/-- A parameter for a name is regular if the declared ones are. -/
theorem regularPathParameter_placeholder {declared : List Parameter}
    (h : ∀ p ∈ declared, Regular p.type) (name : String) :
    RegularPathParameter (placeholderParameter declared name) := by
  unfold placeholderParameter
  split
  · rename_i p hp
    have hmem : p ∈ declared := List.mem_reverse.1 (List.mem_of_find?_eq_some hp)
    exact ⟨(h p hmem).withRequired true, rfl⟩
  · exact ⟨regular_named _ _, rfl⟩

/-- The parameters of a resource are regular if those above it are. -/
theorem regularPathParameter_of_buildNode {ctx : BuildContext} {path uri : String}
    {parameters : List Parameter} {entries : List (Value × Value)} {node : Resource}
    (hparameters : ∀ p ∈ parameters, RegularPathParameter p)
    (h : buildNode ctx path parameters uri entries = .ok node) :
    ∀ p ∈ node.uriParameters, RegularPathParameter p := by
  obtain ⟨declared, hdeclared, heq⟩ := (nodeBuilt_of_buildNode h).uriParameters
  intro p hp
  rw [heq] at hp
  rcases List.mem_append.1 hp with hp | hp
  · exact hparameters p hp
  · obtain ⟨name, -, rfl⟩ := List.mem_map.1 hp
    exact regularPathParameter_placeholder (regular_of_buildParameters hdeclared) _

/-- The parameters of a path are those of the nodes on the way, so what holds of the parameters that
the trees start with and of those of each node holds of all. -/
theorem regularPathParameter_of_buildResources {ctx : BuildContext} {depth : Nat} {path : String}
    {parameters : List Parameter} {entries : List (Value × Value)} {rs : List Resource}
    (hparameters : ∀ p ∈ parameters, RegularPathParameter p)
    (h : buildResources ctx depth path parameters entries = .ok rs) :
    ∀ r ∈ walkAll rs, ∀ p ∈ r.uriParameters, RegularPathParameter p := by
  intro r hr
  obtain ⟨chain, hchain⟩ := mem_walkAll_iff_chainTo.1 hr
  clear hr
  induction hchain generalizing depth path parameters entries with
  | root hroot =>
    obtain ⟨_, _, node, _, _, hnode, -, rfl⟩ := exists_node_of_mem_buildResources h hroot
    have hown := regularPathParameter_of_buildNode hparameters hnode
    exact hown
  | under hroot _ ih =>
    obtain ⟨_, _, node, _, _, hnode, hbelow, rfl⟩ := exists_node_of_mem_buildResources h hroot
    exact ih (regularPathParameter_of_buildNode hparameters hnode) hbelow

/-! ### Whole models -/

/-- The operations of a built model have regular descriptors, and the parameters of their paths are
required. -/
theorem regular_of_mem_operations {entries : List (Value × Value)} {api : Model}
    (h : buildModel entries = .ok api) {o : Resource × Method} (ho : o ∈ api.operations) :
    (∀ p ∈ o.1.uriParameters, RegularPathParameter p) ∧ RegularMethod o.2 := by
  obtain ⟨r, hr, ho⟩ := List.mem_flatMap.1 ho
  obtain ⟨m, hm, rfl⟩ := List.mem_map.1 ho
  have hbuilt := modelBuilt_of_buildModel h
  refine ⟨regularPathParameter_of_buildResources (List.forall_mem_nil _) hbuilt.resources r hr, ?_⟩
  refine of_mem_buildResources (P := fun r => ∀ m ∈ r.methods, RegularMethod m) ?_
    hbuilt.resources r hr m hm
  intro path parameters uri entries node below hnode m hm
  obtain ⟨shared, _, _, _, hshared, -, hmethod⟩ := (nodeBuilt_of_buildNode hnode).exists_entry hm
  exact regularMethod_of_buildMethod (regularTrait_of_buildTraits hbuilt.traits)
    (mem_of_traitRefs hshared) hmethod

end RamlClient.Client
