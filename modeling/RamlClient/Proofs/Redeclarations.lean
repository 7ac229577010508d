import Mathlib.Data.List.Infix
import RamlClient.Proofs.Building
import RamlClient.Proofs.ClientDraft
import RamlClient.Proofs.InheritanceGraph
import RamlClient.Proofs.StructDrafts
import RamlClient.Proofs.TypeOrder
/-!
# Redeclared properties

A field of a struct is made from the first declaration of a lineage that has a property for it. A
declaration comes before those that it inherits from on every way, but not on all ways together:
supertypes that are listed with a base before a type derived from it put the base first. This is the
only way in which a field gets the type of a property that a more derived type redeclares.
-/

namespace RamlClient.Client

open Api Go

/-! ### Where fields come from -/

/-- A new member is the first one of its name, and its name is new. -/
theorem find?_of_mem_newMembers {α : Type} {name : α → String} {names : List String} {as : List α}
    {a : α} (h : a ∈ newMembers name names as) :
    name a ∉ names ∧ as.find? (fun b => name b == name a) = some a := by
  induction as generalizing names with
  | nil => cases h
  | cons b r ih =>
    rw [newMembers] at h
    split at h
    · rename_i hb
      obtain ⟨hnew, hfirst⟩ := ih h
      have hne : name b ≠ name a := fun heq => hnew (heq ▸ hb)
      exact ⟨hnew, by rw [List.find?_cons_of_neg (by simpa using hne), hfirst]⟩
    · rename_i hb
      rcases List.mem_cons.1 h with rfl | h
      · exact ⟨hb, by simp⟩
      · obtain ⟨hnew, hfirst⟩ := ih h
        rw [List.mem_append, List.mem_singleton, not_or] at hnew
        have hne : name b ≠ name a := fun heq => hnew.2 heq.symm
        exact ⟨hnew.1, by rw [List.find?_cons_of_neg (by simpa using hne), hfirst]⟩

/-- The new members are the first ones of their names, where the names are new. -/
theorem mem_newMembers_iff {α : Type} {name : α → String} {names : List String} {as : List α}
    {a : α} :
    a ∈ newMembers name names as ↔
      name a ∉ names ∧ as.find? (fun b => name b == name a) = some a := by
  refine ⟨find?_of_mem_newMembers, ?_⟩
  rintro ⟨hnew, hfirst⟩
  induction as generalizing names with
  | nil => cases hfirst
  | cons b r ih =>
    rw [newMembers]
    by_cases hname : name b = name a
    · rw [List.find?_cons_of_pos (by simpa using hname)] at hfirst
      obtain rfl := Option.some.inj hfirst
      rw [if_neg hnew]
      exact List.mem_cons_self
    · rw [List.find?_cons_of_neg (by simpa using hname)] at hfirst
      split
      · exact ih hnew hfirst
      · refine List.mem_cons_of_mem b (ih ?_ hfirst)
        rw [List.mem_append, List.mem_singleton, not_or]
        exact ⟨hnew, fun heq => hname heq.symm⟩

/-- New members can be picked before or after a change that keeps names. -/
theorem map_newMembers {α β : Type} (f : α → β) (name : β → String) (names : List String)
    (as : List α) :
    (newMembers (fun a => name (f a)) names as).map f = newMembers name names (as.map f) := by
  induction as generalizing names with
  | nil => rfl
  | cons a r ih =>
    rw [newMembers, List.map_cons, newMembers]
    split
    · exact ih names
    · rw [List.map_cons, ih]

/-- A declaration has a property for a field. -/
def declaresField (field : String) (d : TypeDeclaration) : Bool :=
  d.properties.any fun p => exportedName p.name == field

/-- The properties along the lineage of a declaration, each with the declaration that has it. -/
def declaredProperties (api : Model) (t : TypeDeclaration) : List (TypeDeclaration × Property) :=
  (lineage api t).1.flatMap fun e => e.properties.map fun p => (e, p)

/-- The properties that the fields of the struct for a declaration are made from, each with the
declaration that has it. -/
def fieldSources (api : Model) (t : TypeDeclaration) : List (TypeDeclaration × Property) :=
  newMembers (fun s => exportedName s.2.name) [] (declaredProperties api t)

/-- The properties for the fields of a struct are those of their sources. -/
theorem map_fieldSources (api : Model) (t : TypeDeclaration) :
    (fieldSources api t).map (·.2) = structProperties api t := by
  have hall : (declaredProperties api t).map (·.2) = (lineage api t).1.flatMap (·.properties) := by
    simp [declaredProperties, List.map_flatMap, Function.comp_def]
  unfold fieldSources structProperties newProperties
  rw [map_newMembers (fun s : TypeDeclaration × Property => s.2) (fun p => exportedName p.name),
    hall]

/-- A field is made from a property of the first declaration of the lineage that has one for it. -/
theorem find?_of_mem_fieldSources {api : Model} {t : TypeDeclaration}
    {s : TypeDeclaration × Property} (h : s ∈ fieldSources api t) :
    s.2 ∈ s.1.properties ∧
      (lineage api t).1.find? (declaresField (exportedName s.2.name)) = some s.1 := by
  obtain ⟨-, hfirst⟩ := find?_of_mem_newMembers h
  rw [declaredProperties, List.find?_flatMap, List.findSome?_eq_some_iff] at hfirst
  obtain ⟨before, e, after, hsplit, hfound, hbefore⟩ := hfirst
  obtain ⟨p, hp, rfl⟩ := List.mem_map.1 (List.mem_of_find?_eq_some hfound)
  refine ⟨hp, ?_⟩
  rw [List.find?_eq_some_iff_append]
  refine ⟨List.any_eq_true.2 ⟨p, hp, by simp⟩, before, after, hsplit, ?_⟩
  intro d hd
  have hnone := hbefore d hd
  rw [List.find?_eq_none] at hnone
  simp only [declaresField, Bool.not_eq_true', List.any_eq_false]
  intro q hq hname
  exact hnone (d, q) (List.mem_map_of_mem hq) hname

/-- A struct without fields is drafted with a field for each source. -/
theorem exists_run_of_fieldsOf_eq_nil {api : Model} {t : TypeDeclaration} {path name : String}
    {d : Draft} (h : d.package.CanHaveStruct path name) (hempty : d.package.fieldsOf path name = [])
    (hnone : (lineage api t).2 = none) :
    ∃ packages d', (generateStruct path api name t).run d = .ok packages d' ∧
      d'.package.struct? path name =
        some ⟨name, (fieldSources api t).map fun s => propertyField s.2⟩ := by
  have hrun : (generateStruct path api name t).run d = _ := run_generateStruct h
  rw [hnone] at hrun
  refine ⟨_, _, hrun, ?_⟩
  have hfields : (fieldSources api t).map (fun s => propertyField s.2) =
      (structProperties api t).map propertyField := by
    rw [← map_fieldSources, List.map_map]
    rfl
  rw [struct?_withLineage, hempty, hfields]
  rfl

/-! ### Fields that a more derived type redeclares -/

/-- A declaration that can be reached and derives from the source of a field has a property for the
field as well. -/
def Redeclared (api : Model) (t : TypeDeclaration) (s : TypeDeclaration × Property) : Prop :=
  ∃ e, Reaches api t e ∧ Derives api e s.1 ∧ declaresField (exportedName s.2.name) e = true

/-- Somewhere a supertype that leads to the source of a field is listed before one that leads to a
declaration that derives from the source and has a property for the field. -/
def Misordered (api : Model) (t : TypeDeclaration) (s : TypeDeclaration × Property) : Prop :=
  ∃ d x y, Reaches api t d ∧ [x, y].Sublist (parents api d) ∧ Reaches api x s.1 ∧
    ∃ e, Reaches api y e ∧ Derives api e s.1 ∧ declaresField (exportedName s.2.name) e = true

section

variable {api : Model} {t : TypeDeclaration}

/-- Where a walk comes to a base before a type derived from it, supertypes are listed in that
order. -/
theorem exists_misordered {chain : List String} {current base e : TypeDeclaration} {field : String}
    (hnone : (lineageFrom api chain current).2 = none)
    (hfirst : (lineageFrom api chain current).1.find? (declaresField field) = some base)
    (he : Reaches api current e) (hderives : Derives api e base)
    (hfield : declaresField field e = true) :
    ∃ d x y, Reaches api current d ∧ [x, y].Sublist (parents api d) ∧ Reaches api x base ∧
      Reaches api y e := by
  induction chain, current using walk_induction api with
  | seen chain current hmem => exact absurd hmem (lineageFrom_eq_none hnone).1
  | fresh chain current hmem ih =>
    obtain ⟨-, hparents, hall⟩ := lineageFrom_eq_none hnone
    rw [hall, List.find?_cons] at hfirst
    split at hfirst
    · -- the base is where the walk starts, so a type derived from it would inherit from itself
      obtain rfl := Option.some.inj hfirst
      exact absurd ⟨e, he, hderives.trans_left he⟩ (not_reachesCycle_of_lineageFrom hnone)
    · rename_i hnot
      rw [List.find?_flatMap, List.findSome?_eq_some_iff] at hfirst
      obtain ⟨before, x, after, hsplit, hfound, hbefore⟩ := hfirst
      have hx : x ∈ parents api current := by simp [hsplit]
      obtain rfl | ⟨y, hy, hye⟩ := he.cases_head
      · rw [hfield] at hnot
        cases hnot
      have hmemOf {p : TypeDeclaration} (hp : p ∈ parents api current) (hreach : Reaches api p e) :
          e ∈ (lineageFrom api (chain ++ [current.name]) p).1 :=
        mem_lineageFrom_of_reaches (hparents p hp) hreach
      have hplace : y ∈ before ∨ y = x ∨ y ∈ after := by
        have hy' : y ∈ parents api current := hy
        rw [hsplit] at hy'
        simpa using hy'
      obtain hbef | rfl | haft := hplace
      · have hnofield := List.find?_eq_none.1 (hbefore y hbef) e (hmemOf hy hye)
        exact absurd hfield hnofield
      · obtain ⟨d, x', y', hd, hlisted⟩ := ih y hx (hparents y hx) hfound hye
        exact ⟨d, x', y', hd.head hx, hlisted⟩
      · have hbase : Reaches api x base :=
          reaches_of_mem_lineageFrom (List.mem_of_find?_eq_some hfound)
        refine ⟨current, x, y, .refl, ?_, hbase, hye⟩
        rw [hsplit]
        exact (List.singleton_sublist.2 haft).cons_cons x |>.trans
          (List.sublist_append_right before _)

/-- A field is redeclared by a more derived type exactly if supertypes are listed in the wrong
order. -/
theorem redeclared_iff (hnone : (lineage api t).2 = none) {s : TypeDeclaration × Property}
    (hs : s ∈ fieldSources api t) : Redeclared api t s ↔ Misordered api t s := by
  constructor
  · rintro ⟨e, he, hderives, hfield⟩
    obtain ⟨d, x, y, hd, hlisted, hx, hy⟩ :=
      exists_misordered hnone (find?_of_mem_fieldSources hs).2 he hderives hfield
    exact ⟨d, x, y, hd, hlisted, hx, e, hy, hderives, hfield⟩
  · rintro ⟨d, x, y, hd, hlisted, -, e, hy, hderives, hfield⟩
    have hparent : InheritsFrom api d y := hlisted.subset (by simp)
    exact ⟨e, hd.trans (hy.head hparent), hderives, hfield⟩

end

/-- When a struct keeps the most derived types. In an API of different type names, take a declared
type that reaches no cycle, and a struct without fields or none. The struct is drafted with one
field for each source, and the source is the first declaration of the lineage that has a property
for the field. A field has the type of a property that a more derived type redeclares exactly if
somewhere a supertype that leads to its source is listed before one that leads to such a type. So
all fields keep the most derived types exactly if no supertypes are listed in this order. -/
theorem keepsMostDerived_iff {api : Model} {t : TypeDeclaration}
    (hnames : (api.types.map (·.name)).Nodup) (hmem : t ∈ api.types)
    (hacyclic : ¬ReachesCycle api t) {path name : String} {d : Draft}
    (h : d.package.CanHaveStruct path name) (hempty : d.package.fieldsOf path name = []) :
    ∃ packages d', (generateStruct path api name t).run d = .ok packages d' ∧
      d'.package.struct? path name =
        some ⟨name, (fieldSources api t).map fun s => propertyField s.2⟩ ∧
      (∀ s ∈ fieldSources api t, Reaches api t s.1 ∧ s.2 ∈ s.1.properties ∧
        (lineage api t).1.find? (declaresField (exportedName s.2.name)) = some s.1) ∧
      (∀ s ∈ fieldSources api t, (Redeclared api t s ↔ Misordered api t s)) ∧
      ((∀ s ∈ fieldSources api t, ¬Redeclared api t s) ↔
        ∀ s ∈ fieldSources api t, ¬Misordered api t s) := by
  have ht : Declared api t := declared_of_mem hnames hmem
  have hnone : (lineage api t).2 = none := (lineage_eq_none_iff ht).2 hacyclic
  obtain ⟨packages, d', hrun, hstruct⟩ := exists_run_of_fieldsOf_eq_nil h hempty hnone
  refine ⟨packages, d', hrun, hstruct, ?_, ?_, ?_⟩
  · intro s hs
    obtain ⟨hproperty, hfirst⟩ := find?_of_mem_fieldSources hs
    exact ⟨reaches_of_mem_lineageFrom (List.mem_of_find?_eq_some hfirst), hproperty, hfirst⟩
  · intro s hs
    exact redeclared_iff hnone hs
  · exact forall₂_congr fun s hs => not_congr (redeclared_iff hnone hs)

/-- A type with a property. -/
def textIdType : TypeDeclaration :=
  ⟨"Base", ["object"], [⟨"id", ⟨"string", true, none, []⟩, "id"⟩], ⟨"object", true, none, []⟩⟩

/-- A type that redeclares the property that it inherits. -/
def numberIdType : TypeDeclaration :=
  ⟨"Derived", ["Base"], [⟨"id", ⟨"integer", true, none, []⟩, "id"⟩], ⟨"Base", true, none, []⟩⟩

/-- A type that inherits from two others. -/
def bothType (first second : String) : TypeDeclaration :=
  ⟨"Both", [first, second], [], ⟨first, true, none, []⟩⟩

/-- An API with a type, one that is derived from it, and one that inherits from two. -/
def bothApi (first second : String) : Model :=
  petApi [textIdType, numberIdType, bothType first second]

/-- A derived type that is listed before its base keeps its type. -/
theorem keepsMostDerived_both : ∃ packages d',
    (generateStruct "models.go" (bothApi "Derived" "Base") "Both" (bothType "Derived" "Base")).run
      petDraft = .ok packages d' ∧
    d'.package.struct? "models.go" "Both" = some ⟨"Both", [⟨"ID", "int", some "json:\x22id\x22"⟩]⟩ ∧
    ∀ s ∈ fieldSources (bothApi "Derived" "Base") (bothType "Derived" "Base"),
      ¬Misordered (bothApi "Derived" "Base") (bothType "Derived" "Base") s := by
  have hnone : (lineage (bothApi "Derived" "Base") (bothType "Derived" "Base")).2 = none := by
    rw [lineage_eq_upTo]
    decide +kernel
  have hacyclic := not_reachesCycle_of_lineageFrom hnone
  have hsources : fieldSources (bothApi "Derived" "Base") (bothType "Derived" "Base") =
      [(numberIdType, ⟨"id", ⟨"integer", true, none, []⟩, "id"⟩)] := by
    simp only [fieldSources, declaredProperties, lineage_eq_upTo]
    decide +kernel
  have hcan : petDraft.package.CanHaveStruct "models.go" "Both" := .inr (by decide +kernel)
  obtain ⟨packages, d', hrun, hstruct, -, -, hiff⟩ := keepsMostDerived_iff (by decide +kernel)
    (by decide +kernel) hacyclic hcan (by decide +kernel)
  refine ⟨packages, d', hrun, ?_, hiff.1 ?_⟩
  · rw [hstruct, hsources]
    decide +kernel
  · rw [hsources]
    rintro s hs ⟨e, he, hderives, hfield⟩
    obtain rfl := List.mem_singleton.1 hs
    have hdeclared : Declared (bothApi "Derived" "Base") (bothType "Derived" "Base") :=
      declared_of_mem (by decide +kernel) (by decide +kernel)
    have hmem : e ∈ [textIdType, numberIdType, bothType "Derived" "Base"] :=
      (he.declared hdeclared).mem_types
    simp only [List.mem_cons, List.not_mem_nil, or_false] at hmem
    obtain rfl | rfl | rfl := hmem
    · obtain ⟨c, hc, -⟩ := Relation.TransGen.head'_iff.1 hderives
      have hnoParents : parents (bothApi "Derived" "Base") textIdType = [] := by decide +kernel
      rw [InheritsFrom, hnoParents] at hc
      cases hc
    · exact hacyclic ⟨numberIdType, he, hderives⟩
    · exact absurd hfield (by decide +kernel)

/-- A document that declares these types. -/
def bothDocument (first second : String) : List (Value × Value) :=
  [(.text "title", .text "T"),
   (.text "types", .mapping
     [(.text "Base", .mapping [(.text "properties", .mapping [(.text "id", .text "string")])]),
      (.text "Derived", .mapping [(.text "type", .text "Base"),
        (.text "properties", .mapping [(.text "id", .text "integer")])]),
      (.text "Both", .mapping [(.text "type", .list [.text first, .text second])])])]

/-- A base that is listed before a type derived from it gives its type to a field that the derived
type redeclares. -/
theorem not_keepsMostDerived_both : ∃ api, buildModel (bothDocument "Base" "Derived") = .ok api ∧
    (api.types.map (·.name)).Nodup ∧
    ∃ base ∈ api.types, ∃ derived ∈ api.types, ∃ both ∈ api.types,
      ¬ReachesCycle api both ∧ Reaches api both derived ∧ Derives api derived base ∧
      (base.properties.map propertyField = [⟨"ID", "string", some "json:\x22id\x22"⟩]) ∧
      (derived.properties.map propertyField = [⟨"ID", "int", some "json:\x22id\x22"⟩]) ∧
      ∃ packages d', (generateStruct "models.go" api "Both" both).run petDraft = .ok packages d' ∧
        d'.package.struct? "models.go" "Both" =
          some ⟨"Both", [⟨"ID", "string", some "json:\x22id\x22"⟩]⟩ ∧
        ¬∀ s ∈ fieldSources api both, ¬Redeclared api both s := by
  have htypes : (buildModel (bothDocument "Base" "Derived")).toOption.map (·.types) =
      some (bothApi "Base" "Derived").types := by decide +kernel
  obtain ⟨api, hapi, htypes⟩ := Option.map_eq_some_iff.1 htypes
  have hbuild : buildModel (bothDocument "Base" "Derived") = .ok api := toOption_eq_some_iff.1 hapi
  have hfind : api.findType? = (bothApi "Base" "Derived").findType? := by
    funext name
    rw [Model.findType?, htypes]
    rfl
  have hlineage := lineage_congr hfind
  have hnone : (lineage api (bothType "Base" "Derived")).2 = none := by
    rw [hlineage, lineage_eq_upTo]
    decide +kernel
  have hsources : fieldSources api (bothType "Base" "Derived") =
      [(textIdType, ⟨"id", ⟨"string", true, none, []⟩, "id"⟩)] := by
    rw [fieldSources, declaredProperties, hlineage, lineage_eq_upTo]
    decide +kernel
  have hedge (d e : TypeDeclaration) (h : e ∈ parents (bothApi "Base" "Derived") d) :
      InheritsFrom api d e := by
    rw [InheritsFrom, parents, hfind]
    exact h
  have hreach : Reaches api (bothType "Base" "Derived") numberIdType :=
    .single (hedge _ _ (by decide +kernel))
  have hderives : Derives api numberIdType textIdType := .single (hedge _ _ (by decide +kernel))
  have hcan : petDraft.package.CanHaveStruct "models.go" "Both" := .inr (by decide +kernel)
  obtain ⟨packages, d', hrun, hstruct⟩ :=
    exists_run_of_fieldsOf_eq_nil hcan (by decide +kernel) hnone
  rw [hsources] at hstruct
  refine ⟨api, hbuild, ?_⟩
  rw [htypes]
  refine ⟨by decide +kernel, textIdType, by decide +kernel, numberIdType, by decide +kernel,
    bothType "Base" "Derived", by
      decide +kernel, not_reachesCycle_of_lineageFrom hnone, hreach, hderives,
    by decide +kernel, by decide +kernel, packages, d', hrun, ?_, ?_⟩
  · rw [hstruct]
    decide +kernel
  · rw [hsources]
    intro hkeeps
    exact hkeeps _ List.mem_cons_self ⟨numberIdType, hreach, hderives, by decide +kernel⟩

end RamlClient.Client
