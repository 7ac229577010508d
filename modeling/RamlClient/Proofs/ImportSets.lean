import RamlClient.Proofs.HeldTypes
import RamlClient.Proofs.OperationStructs
import RamlClient.Proofs.PackageNames
import RamlClient.Proofs.TypeOrder
/-!
# The imports of a file

A generated file imports what it uses. The file for the declared types imports the packages of the
types that it is about. The file for the operations imports the packages that its methods use as
well, and only one kind of import can be needless: that for the type of a body that has properties
of its own, where a struct stands for the body and its type is not written.
-/

namespace RamlClient.Go

/-! ### Lists of imports -/

/-- The imports after one is inserted. -/
theorem mem_insertImport {path x : String} {paths : List String} :
    x ∈ insertImport path paths ↔ x = path ∨ x ∈ paths := by
  induction paths with
  | nil => simp [insertImport]
  | cons p r ih =>
    rw [insertImport]
    split
    · exact List.mem_cons
    · split
      · rename_i heq
        simp [heq]
      · simp [ih, or_left_comm]

/-- The imports of a file after some are added. -/
theorem File.mem_addImports {f : File} {paths : List String} {x : String} :
    x ∈ (f.addImports paths).imports ↔ x ∈ paths ∨ x ∈ f.imports := by
  rw [File.addImports]
  dsimp only
  generalize f.imports = imports
  induction paths generalizing imports with
  | nil => simp
  | cons p r ih =>
    rw [List.foldl_cons, ih, mem_insertImport, List.mem_cons]
    grind

end RamlClient.Go

namespace RamlClient.Client

open Api Go

/-! ### Packages of types -/

/-- The packages of a type are those of its innermost kind. -/
theorem typePackages_eq (d : TypeDescriptor) :
    typePackages d = ((leafKind d).map kindPackages).getD [] := by
  induction d using typePackages.induct with
  | case1 kind required items members hunion => simp [typePackages, leafKind, hunion]
  | case2 kind required items members hunion ih => simp [typePackages, leafKind, hunion, ih]
  | case3 kind required members hunion => simp [typePackages, leafKind, hunion]
  | case4 kind required members hunion => simp [typePackages, leafKind, hunion]

/-- The types of other packages are not letters and digits alone. -/
theorem not_alphanumeric_packageOfType : ∀ q ∈ packageOfType, ¬Alphanumeric q.1.toList := by
  decide +kernel

/-- A package of types is needed for a type exactly if the type is about the one of the package. -/
theorem package_mem_typePackages {d : TypeDescriptor} {q : String × String}
    (hq : q ∈ packageOfType) :
    q.2 ∈ typePackages d ↔ baseType (typeText d) = q.1 := by
  rw [baseType_typeText, typePackages_eq, leafType]
  cases leafKind d with
  | none =>
    have hany : ∀ q ∈ packageOfType, anyType ≠ q.1 := by decide +kernel
    simp [hany q hq]
  | some kind =>
    rw [Option.map_some, Option.getD_some, Option.map_some, Option.getD_some, kindPackages,
      kindType]
    cases hscalar : scalarType? kind with
    | some type =>
      have hall : ∀ s ∈ scalarTypes, ∀ q ∈ packageOfType,
          q.2 ∈ ((packageOfType.find? fun p => p.1 == s.2).map (·.2)).toList ↔ s.2 = q.1 := by
        decide +kernel
      obtain ⟨s, hs, rfl⟩ := Option.map_eq_some_iff.1 hscalar
      exact hall s (List.mem_of_find?_eq_some hs) q hq
    | none =>
      rw [Option.getD_none]
      refine iff_of_false List.not_mem_nil fun heq => absurd (alphanumeric_exportedName kind) ?_
      rw [heq]
      exact not_alphanumeric_packageOfType q hq

/-- The packages that a type needs are those of types of other packages. -/
theorem exists_of_mem_typePackages {d : TypeDescriptor} {x : String} (h : x ∈ typePackages d) :
    ∃ q ∈ packageOfType, x = q.2 := by
  rw [typePackages_eq] at h
  cases hleaf : leafKind d with
  | none =>
    rw [hleaf] at h
    cases h
  | some kind =>
    rw [hleaf, Option.map_some, Option.getD_some, kindPackages] at h
    split at h
    · obtain ⟨q, hq, rfl⟩ := Option.map_eq_some_iff.1 (Option.mem_toList.1 h)
      exact ⟨q, List.mem_of_find?_eq_some hq, rfl⟩
    · cases h

/-- A type needs the packages of the types that it is about. -/
theorem mem_typePackages_iff {d : TypeDescriptor} {x : String} :
    x ∈ typePackages d ↔ ∃ q ∈ packageOfType, x = q.2 ∧ baseType (typeText d) = q.1 := by
  constructor
  · intro h
    obtain ⟨q, hq, rfl⟩ := exists_of_mem_typePackages h
    exact ⟨q, hq, rfl, (package_mem_typePackages hq).1 h⟩
  · rintro ⟨q, hq, rfl, h⟩
    exact (package_mem_typePackages hq).2 h

example : typePackages (.arrayOf (.named "date-only" true) true) = ["time"] ∧
    typePackages (.named "string" true) = [] := by decide +kernel

/-! ### Types in texts -/

/-- What does not begin like a mark stands in a text exactly if it stands behind the marks. -/
theorem infix_stripMarks {c : Char} {r : List Char} (hc : Unmarked (c :: r)) (hslice : c ≠ ']')
    (cs : List Char) : c :: r <:+: stripMarks cs ↔ c :: r <:+: cs := by
  have hhead {d : Char} {ds : List Char} (hd : c ≠ d) : c :: r <:+: d :: ds ↔ c :: r <:+: ds := by
    rw [List.infix_cons_iff, List.cons_prefix_cons]
    simp [hd]
  simp only [Unmarked, List.head?_cons, ne_eq, Option.some.injEq] at hc
  induction cs using stripMarks.induct with
  | case1 ds ih =>
    rw [stripMarks_pointer, hhead hc.1]
    exact ih
  | case2 ds ih =>
    rw [stripMarks_slice, hhead hc.2, hhead hslice]
    exact ih
  | case3 cs hpointer hslice => rw [stripMarks.eq_3 cs hpointer hslice]

/-- A type text contains a type of another package if its innermost type does. -/
theorem infix_baseType {q : String × String} (hq : q ∈ packageOfType) (text : String) :
    q.1.toList <:+: (baseType text).toList ↔ q.1.toList <:+: text.toList := by
  have hall : ∀ q ∈ packageOfType, Unmarked q.1.toList ∧
    q.1.toList.head?.any (· != ']') = true := by
    decide +kernel
  obtain ⟨hmark, hslice⟩ := hall q hq
  rw [baseType, String.toList_ofList]
  cases hcs : q.1.toList with
  | nil => simp [hcs] at hslice
  | cons c r =>
    rw [hcs] at hmark hslice
    exact infix_stripMarks hmark (by simpa using hslice) text.toList

/-- What consists of letters and digits has none of the types of other packages in it. -/
theorem not_infix_of_alphanumeric {q : String × String} (hq : q ∈ packageOfType) {cs : List Char}
    (h : Alphanumeric cs) : ¬q.1.toList <:+: cs :=
  fun hin => not_alphanumeric_packageOfType q hq fun c hc => h c (hin.subset hc)

/-- The text of a descriptor contains a type of another package exactly if it is about it. -/
theorem infix_typeText_iff {q : String × String} (hq : q ∈ packageOfType) (d : TypeDescriptor) :
    q.1.toList <:+: (typeText d).toList ↔ baseType (typeText d) = q.1 := by
  rw [← infix_baseType hq, baseType_typeText, leafType]
  cases leafKind d with
  | none =>
    have hany : ∀ q ∈ packageOfType, (q.1.toList <:+: anyType.toList ↔ anyType = q.1) := by
      decide +kernel
    exact hany q hq
  | some kind =>
    rw [Option.map_some, Option.getD_some, kindType]
    cases hscalar : scalarType? kind with
    | some type =>
      have hall : ∀ s ∈ scalarTypes, ∀ q ∈ packageOfType, (q.1.toList <:+: s.2.toList ↔
        s.2 = q.1) := by
        decide +kernel
      obtain ⟨s, hs, rfl⟩ := Option.map_eq_some_iff.1 hscalar
      exact hall s (List.mem_of_find?_eq_some hs) q hq
    | none =>
      have hnot := not_infix_of_alphanumeric hq (alphanumeric_exportedName kind)
      rw [Option.getD_none]
      exact ⟨fun h => absurd h hnot, fun heq => absurd (heq ▸ List.infix_rfl) hnot⟩

/-! ### The file for the declared types -/

/-- Whether a type text in a file is about a type. -/
def IsAbout (f : File) (type : String) : Prop :=
  ∃ x ∈ f.definitions, ∃ text ∈ typeTexts x, baseType text = type

instance (f : File) (type : String) : Decidable (IsAbout f type) :=
  inferInstanceAs (Decidable (∃ x ∈ f.definitions, ∃ text ∈ typeTexts x, baseType text = type))

/-- Whether a type text in a file contains a type. -/
def Contains (f : File) (type : String) : Prop :=
  ∃ x ∈ f.definitions, ∃ text ∈ typeTexts x, type.toList <:+: text.toList

/-- The descriptors in the definition of a declared type. -/
def definitionDescriptors (api : Model) (t : TypeDeclaration) : List TypeDescriptor :=
  if isObject api t then (structProperties api t).map (·.type) else [t.descriptor]

/-- The type texts of the definition of a declared type. -/
theorem typeTexts_modelOf (api : Model) (t : TypeDeclaration) :
    typeTexts (modelOf api t) = (definitionDescriptors api t).map typeText := by
  unfold modelOf modelDefinition definitionDescriptors
  split
  · rw [typeTexts_structFor, List.map_map]
    rfl
  · rfl

/-- The packages that the definition of a declared type needs are those of its descriptors. -/
theorem packagesOf_eq (api : Model) (t : TypeDeclaration) :
    packagesOf api t = (definitionDescriptors api t).flatMap typePackages := by
  unfold packagesOf definitionDescriptors
  split
  · rw [List.flatMap_map]
  · simp

/-- The definition of a declared type needs the packages of the types that it contains. -/
theorem mem_packagesOf_iff {api : Model} {t : TypeDeclaration} {x : String} :
    x ∈ packagesOf api t ↔
      ∃ q ∈ packageOfType, x = q.2 ∧ ∃ text ∈ typeTexts (modelOf api t),
      q.1.toList <:+: text.toList := by
  rw [packagesOf_eq, typeTexts_modelOf]
  simp only [List.mem_flatMap, mem_typePackages_iff, List.mem_map]
  constructor
  · rintro ⟨d, hd, q, hq, rfl, habout⟩
    exact ⟨q, hq, rfl, _, ⟨d, hd, rfl⟩, (infix_typeText_iff hq d).2 habout⟩
  · rintro ⟨q, hq, rfl, _, ⟨d, hd, rfl⟩, hinfix⟩
    exact ⟨d, hd, q, hq, rfl, (infix_typeText_iff hq d).1 hinfix⟩

/-- A definition of a declared type is the one that is drafted for it. -/
theorem IsModel.eq_modelOf {api : Model} {t : TypeDeclaration} {x : Definition}
    (h : IsModel api t x) :
    x = modelOf api t := by
  obtain ⟨b, hb, rfl⟩ := h
  rw [modelOf, isObject, hb]

/-- The definitions of declared types are those that are drafted for them, in order. -/
theorem eq_map_modelOf {api : Model} {ts : List TypeDeclaration} {ds : List Definition}
    (h : List.Forall₂ (IsModel api) ts ds) : ds = ts.map (modelOf api) := by
  induction h with
  | nil => rfl
  | cons hx _ ih => rw [List.map_cons, hx.eq_modelOf, ih]

/-- What is there in an empty file after definitions and imports have been appended. -/
theorem exists_file_of_appends {path : String} {xs : List String} {ds : List Definition}
    {p q : Package} (h : Appends path xs ds p q) (hfile : p.file? path = some (File.empty path)) :
    ∃ f, q.file? path = some f ∧ (∀ x, x ∈ f.imports ↔ x ∈ xs) ∧ ∀ d, d ∈ f.definitions ↔
    d ∈ ds := by
  refine ⟨_, h.file _ hfile, fun x => ?_, fun d => ?_⟩
  · rw [File.mem_addImports, File.imports_addAll]
    simp [File.empty]
  · rw [File.definitions_addImports, ((File.empty path).definitions_addAll ds).mem_iff]
    simp

/-- The file for the declared types imports exactly the packages of the types that it contains. -/
theorem mem_imports_of_generateModels {path : String} {api : Model} {d d' : Draft} {u : Unit}
    (hp : d.package.Grounded) (hfile : d.package.file? path = some (File.empty path))
    (h : (generateModels path api).run d = .ok u d') :
    ∃ f, d'.package.file? path = some f ∧
      ∀ x, x ∈ f.imports ↔ ∃ q ∈ packageOfType, x = q.2 ∧ Contains f q.1 := by
  obtain ⟨ds, happ, hall⟩ := generateModels_eq_ok (ready_of_empty hp hfile) hfile h
  obtain ⟨f, hf, himports, hdefinitions⟩ := exists_file_of_appends happ hfile
  refine ⟨f, hf, fun x => ?_⟩
  simp only [himports, List.mem_flatMap, mem_packagesOf_iff, Contains, hdefinitions,
    eq_map_modelOf hall, List.mem_map]
  grind

/-! ### Operations -/

/-- The first body of a request has properties of its own, and the text of its type contains a
type. -/
def HoldsInline (m : Method) (type : String) : Prop :=
  ∃ body rest, m.allBodies = body :: rest ∧ body.properties ≠ [] ∧
    type.toList <:+: (typeText body.type).toList

/-- The first successful response has a body whose type has a text. -/
def HasResult (m : Method) : Prop :=
  ∃ status body rest, m.successResponse = .ok (some ⟨status, body :: rest⟩) ∧
    typeText body.type ≠ ""

/-- A function has a result if the first successful response has a body with a type. -/
theorem isSome_resultType_iff {m : Method} {response : Option Response}
    (h : m.successResponse = .ok response) : (resultType response).isSome = true ↔ HasResult m := by
  rw [resultType, HasResult, h]
  cases response with
  | none => simp [resultDescriptor]
  | some r =>
    obtain ⟨status, bodies⟩ := r
    cases bodies with
    | nil => simp [resultDescriptor]
    | cons body rest => simp [resultDescriptor]

/-- What is left of a type text without its marks is its end. -/
theorem stripMarks_suffix (cs : List Char) : stripMarks cs <:+ cs := by
  induction cs using stripMarks.induct with
  | case1 r ih =>
    rw [stripMarks_pointer]
    exact ih.trans (List.suffix_cons _ _)
  | case2 r ih =>
    rw [stripMarks_slice]
    exact ih.trans ((List.suffix_cons _ _).trans (List.suffix_cons _ _))
  | case3 cs hpointer hslice =>
    have heq : stripMarks cs = cs := stripMarks.eq_3 cs hpointer hslice
    exact heq.symm ▸ List.suffix_rfl

/-- The ends of the names of structs for operations. -/
def structEndings : List String := ["Params", "Payload"]

/-- The name of a struct for an operation is about no type of another package. -/
theorem baseType_append_ne {q : String × String} (hq : q ∈ packageOfType) {s : String}
    (hs : s ∈ structEndings) (name : String) : baseType (name ++ s) ≠ q.1 := by
  have hlast : ∀ q ∈ packageOfType, ∀ s ∈ structEndings,
      s.toList.getLast?.isSome = true ∧ q.1.toList.getLast?.isSome = true ∧
        s.toList.getLast? ≠ q.1.toList.getLast? := by decide +kernel
  obtain ⟨hsome, hsome', hne⟩ := hlast q hq s hs
  intro heq
  have hsuffix : q.1.toList <:+ name.toList ++ s.toList := by
    rw [← heq, baseType, String.toList_ofList, ← String.toList_append]
    exact stripMarks_suffix _
  obtain ⟨front, hfront⟩ := hsuffix
  have hends := congrArg List.getLast? hfront
  rw [List.getLast?_append, List.getLast?_append, Option.or_of_isSome hsome,
    Option.or_of_isSome hsome'] at hends
  exact hne hends.symm

section

variable {p : Package} {path name : String} {args : List Arg} {ds : List Definition}
  {packages : List String}

/-- An argument or a definition is about a type. -/
def AnyAbout (args : List Arg) (ds : List Definition) (type : String) : Prop :=
  (∃ a ∈ args, baseType a.type = type) ∨ ∃ z ∈ ds, ∃ text ∈ typeTexts z, baseType text = type

/-- New query parameters need the packages of the types that they are about. -/
theorem QueryDrafted.mem_packages_iff {parameters : List Parameter}
    (h : QueryDrafted p path name parameters args ds packages)
    (hno : ¬HasStruct p path (name ++ "Params")) {x : String} :
    x ∈ packages ↔ ∃ q ∈ packageOfType, x = q.2 ∧ AnyAbout args ds q.1 := by
  cases h with
  | none hnil => simp [AnyAbout]
  | there _ hthere => exact absurd hthere hno
  | new hcons =>
    have hargs {q : String × String} (hq : q ∈ packageOfType) : baseType (name ++ "Params") ≠ q.1 :=
      baseType_append_ne hq (by decide) name
    simp only [List.mem_flatMap, mem_typePackages_iff, AnyAbout, List.mem_singleton, exists_eq_left,
      typeTexts_paramsStruct, List.mem_map]
    constructor
    · rintro ⟨r, hr, q, hq, rfl, habout⟩
      exact ⟨q, hq, rfl, .inr ⟨_, ⟨r, hr, rfl⟩, habout⟩⟩
    · rintro ⟨q, hq, rfl, habout | ⟨_, ⟨r, hr, rfl⟩, habout⟩⟩
      · exact absurd habout (hargs hq)
      · exact ⟨r, hr, q, hq, rfl, habout⟩

/-- A body without properties of its own stands for itself if its type is about one of another
package. -/
theorem standsForItself_of_about {api : Model} {body : Body} {q : String × String}
    (hq : q ∈ packageOfType) (hproperties : body.properties = [])
    (habout : baseType (typeText body.type) = q.1) :
    standsForItself p api body = .ok true := by
  unfold standsForItself
  simp only [hproperties, List.isEmpty_nil, Bool.not_true, Bool.false_eq_true, if_false]
  split
  · rfl
  · rename_i hsingle
    have hleaf := (leafKind_of_single (by simpa using hsingle)).1
    rw [baseType_typeText, leafType, hleaf, Option.map_some, Option.getD_some, kindType] at habout
    have hscalar : scalarType? body.type.kind = some q.1 := by
      cases hscalar : scalarType? body.type.kind with
      | some type =>
        rw [hscalar, Option.getD_some] at habout
        rw [habout]
      | none =>
        rw [hscalar, Option.getD_none] at habout
        exact absurd (habout ▸ alphanumeric_exportedName body.type.kind)
          (not_alphanumeric_packageOfType q hq)
    have hobject : body.type.kind ≠ "object" := by
      have hall : ∀ q ∈ packageOfType, scalarType? "object" ≠ some q.1 := by decide +kernel
      exact fun heq => hall q hq (heq ▸ hscalar)
    split
    · rfl
    · simp [mem_builtinKinds_of_scalarType? hscalar, hobject]

/-- A body that stands for itself has no properties of its own. -/
theorem properties_eq_nil_of_standsForItself {api : Model} {body : Body}
    (h : standsForItself p api body = .ok true) : body.properties = [] := by
  unfold standsForItself at h
  dsimp only at h
  split at h
  · cases h
  · rename_i hempty
    simpa using hempty

/-- A new payload needs the packages of the types that it is about, and that of the body's type if a
struct with the properties of the body takes its place. -/
theorem BodyDrafted.mem_packages_iff {api : Model} {m : Method} {contentType : Option String}
    (h : BodyDrafted p path name api m contentType args ds packages)
    (hno : ¬HasStruct p path (name ++ "Payload")) {x : String} :
    x ∈ packages ↔ ∃ q ∈ packageOfType, x = q.2 ∧ (AnyAbout args ds q.1 ∨ HoldsInline m q.1) := by
  cases h with
  | none hnil => simp [AnyAbout, HoldsInline, hnil]
  | @json body rest type ds packages hcons _ hpayload =>
    have hinline {q : String × String} (hq : q ∈ packageOfType) :
        HoldsInline m q.1 ↔ body.properties ≠ [] ∧ baseType (typeText body.type) = q.1 := by
      rw [HoldsInline, hcons, ← infix_typeText_iff hq]
      simp
    cases hpayload with
    | itself hself =>
      simp only [mem_typePackages_iff, AnyAbout, List.mem_singleton, exists_eq_left,
        List.not_mem_nil, false_and, exists_false, or_false]
      have hnil := properties_eq_nil_of_standsForItself hself
      constructor
      · rintro ⟨q, hq, rfl, habout⟩
        exact ⟨q, hq, rfl, .inl habout⟩
      · rintro ⟨q, hq, rfl, habout | hheld⟩
        · exact ⟨q, hq, rfl, habout⟩
        · exact absurd hnil ((hinline hq).1 hheld).1
    | there _ hthere => exact absurd hthere hno
    | new hself _ =>
      have hargs {q : String × String} (hq : q ∈ packageOfType) :
        baseType (name ++ "Payload") ≠ q.1 :=
        baseType_append_ne hq (by decide) name
      simp only [List.mem_append, List.mem_flatMap, mem_typePackages_iff, AnyAbout,
        List.mem_singleton, exists_eq_left, typeTexts_payloadStruct, List.mem_map]
      constructor
      · rintro (⟨q, hq, rfl, habout⟩ | ⟨r, hr, q, hq, rfl, habout⟩)
        · refine ⟨q, hq, rfl, .inr ((hinline hq).2 ⟨fun hnil => ?_, habout⟩)⟩
          rw [standsForItself_of_about hq hnil habout] at hself
          cases hself
        · exact ⟨q, hq, rfl, .inl (.inr ⟨_, ⟨r, hr, rfl⟩, habout⟩)⟩
      · rintro ⟨q, hq, rfl, (habout | ⟨_, ⟨r, hr, rfl⟩, habout⟩) | hheld⟩
        · exact absurd habout (hargs hq)
        · exact .inr ⟨r, hr, q, hq, rfl, habout⟩
        · exact .inl ⟨q, hq, rfl, ((hinline hq).1 hheld).2⟩

/-- A function sends a content type if its method has a body. -/
theorem BodyDrafted.isSome_contentType {api : Model} {m : Method} {contentType : Option String}
    (h : BodyDrafted p path name api m contentType args ds packages) :
    contentType.isSome = true ↔ HasBody m := by
  rw [← not_iff_not, ← allBodies_eq_nil]
  cases h with
  | none hnil => simp [hnil]
  | json hcons _ _ => simp [hcons]

end

/-- The imports of an operation that has been drafted. -/
structure MethodParts.Imported (y : MethodParts) : Prop where
  /-- Besides the packages of its types these are the ones that its body uses. -/
  imports : y.imports = methodPaths y.resource y.method y.response y.contentType
  /-- The packages of its types are those that its definitions are about, and that of a body's
  type. -/
  packages : ∀ x, x ∈ y.packages ↔ ∃ q ∈ packageOfType, x = q.2 ∧
    ((∃ z ∈ y.definitions, ∃ text ∈ typeTexts z, baseType text = q.1) ∨ HoldsInline y.method q.1)
  /-- It has a content type if it has a body. -/
  contentType : y.contentType.isSome = true ↔ HasBody y.method

/-- The packages that a result needs are those of the types it is about. -/
theorem mem_resultPackages_iff {response : Option Response} {x : String} :
    x ∈ ((resultDescriptor response).map typePackages).getD [] ↔ ∃ q ∈ packageOfType, x = q.2 ∧
      ∃ text ∈ resultTypes (resultType response), baseType text = q.1 := by
  have hfixed : ∀ q ∈ packageOfType, baseType "" ≠ q.1 ∧ baseType "*http.Response" ≠ q.1 ∧
      baseType "error" ≠ q.1 := by decide +kernel
  cases hd : resultDescriptor response with
  | none =>
    rw [resultType, hd]
    simp only [Option.map_none, Option.getD_none, List.not_mem_nil, false_iff]
    rintro ⟨q, hq, -, text, htext, habout⟩
    have htext : text = "*http.Response" ∨ text = "error" := by simpa [resultTypes] using htext
    obtain rfl | rfl := htext
    · exact (hfixed q hq).2.1 habout
    · exact (hfixed q hq).2.2 habout
  | some d =>
    rw [resultType, hd, Option.map_some, Option.map_some, Option.getD_some, mem_typePackages_iff]
    refine exists_congr fun q => and_congr_right fun hq => and_congr_right fun _ => ?_
    obtain ⟨hempty, hresponse, herror⟩ := hfixed q hq
    by_cases htext : typeText d = ""
    · simp [resultTypes, htext, hempty, hresponse, herror]
    · simp [resultTypes, htext, hresponse, herror]

/-- What the definitions of an operation are about: its arguments, its results and its structs. -/
theorem MethodParts.about_iff (y : MethodParts) (type : String) :
    (∃ z ∈ y.definitions, ∃ text ∈ typeTexts z, baseType text = type) ↔
      (∃ p ∈ y.resource.uriParameters, baseType (typeText p.type) = type) ∨
        (∃ text ∈ resultTypes (resultType y.response), baseType text = type) ∨
        AnyAbout y.queryArgs y.params type ∨ AnyAbout y.payloadArgs y.payloads type := by
  have hfunc : (∃ text ∈ typeTexts (.func y.func), baseType text = type) ↔
      (∃ p ∈ y.resource.uriParameters, baseType (typeText p.type) = type) ∨
        (∃ a ∈ y.queryArgs, baseType a.type = type) ∨
        (∃ a ∈ y.payloadArgs, baseType a.type = type) ∨
        ∃ text ∈ resultTypes (resultType y.response), baseType text = type := by
    simp only [typeTexts, MethodParts.func, List.mem_append, List.map_append, List.mem_map,
      pathArgs, or_and_right, exists_or, or_assoc]
    simp
  simp only [MethodParts.definitions, List.mem_cons, List.mem_append, or_and_right, exists_or,
    exists_eq_left, hfunc, AnyAbout]
  grind

/-- What an operation imports if its structs are new. -/
theorem MethodParts.imported {path : String} {api : Model} {y : MethodParts} {p₁ p₂ : Package}
    (hquery : QueryDrafted p₁ path y.name y.method.allQueryParameters y.queryArgs y.params
      y.queryPackages)
    (hnoParams : ¬HasStruct p₁ path (y.name ++ "Params"))
    (hbody : BodyDrafted p₂ path y.name api y.method y.contentType y.payloadArgs y.payloads
      y.payloadPackages)
    (hnoPayload : ¬HasStruct p₂ path (y.name ++ "Payload")) : y.Imported where
  imports := by
    have hbodies : y.method.allBodies.isEmpty = !y.contentType.isSome := by
      have hcontent := hbody.isSome_contentType
      rw [← not_iff_not, ← allBodies_eq_nil] at hcontent
      rw [Bool.eq_iff_iff, List.isEmpty_iff, ← hcontent]
      simp
    rw [MethodParts.imports, methodPaths, queryImports, bodyImports, hbodies]
    cases y.contentType.isSome <;> rfl
  packages := fun x => by
    rw [MethodParts.packages]
    simp only [List.mem_append, List.mem_flatMap, mem_typePackages_iff, mem_resultPackages_iff,
      hquery.mem_packages_iff hnoParams, hbody.mem_packages_iff hnoPayload, y.about_iff]
    grind
  contentType := hbody.isSome_contentType

/-! ### The file for the operations -/

/-- The imports of the file for operations. -/
structure OperationImports (api : Model) (f : File) : Prop where
  /-- Requests are made if there is an operation. -/
  http : "net/http" ∈ f.imports ↔ api.operations ≠ []
  /-- Arguments for a path and query parameters are formatted. -/
  fmt : "fmt" ∈ f.imports ↔ ∃ o ∈ api.operations, o.1.uriParameters ≠ [] ∨ HasQuery o.2
  /-- Query parameters are encoded. -/
  url : "net/url" ∈ f.imports ↔ ∃ o ∈ api.operations, HasQuery o.2
  /-- The body of a request is read from its bytes. -/
  bytes : "bytes" ∈ f.imports ↔ ∃ o ∈ api.operations, HasBody o.2
  /-- The body of a request is encoded, and that of a response is decoded. -/
  json : "encoding/json" ∈ f.imports ↔ ∃ o ∈ api.operations, HasBody o.2 ∨ HasResult o.2
  /-- The package of a type is imported if the file is about the type, and needlessly if a struct
  with the properties of a body stands for the type. -/
  typed : ∀ q ∈ packageOfType,
    (q.2 ∈ f.imports ↔ IsAbout f q.1 ∨ ∃ o ∈ api.operations, HoldsInline o.2 q.1)
  /-- There are no other imports. -/
  only : ∀ x ∈ f.imports, x ∈ statementPaths ∨ ∃ q ∈ packageOfType, x = q.2
  /-- What is imported for statements is used in the body of a function, and what is used is
  imported. -/
  used : ∀ x ∈ statementPaths,
    (x ∈ f.imports ↔ ∃ g ∈ f.funcs, packageName x ∈ identifiers (Text.concat g.body))
  /-- The file is about the types that its type texts contain. -/
  contains : (∀ o ∈ api.operations, o.2.verb ∈ verbs) →
    ∀ q ∈ packageOfType, (Contains f q.1 ↔ IsAbout f q.1)

/-- The packages that the statements of a function need, and what each is needed for. -/
theorem mem_methodPaths_iff {r : Resource} {m : Method} {response : Option Response}
    {contentType : Option String} {x : String} : x ∈ methodPaths r m response contentType ↔
      x = "net/http" ∨ ((x = "net/url" ∨ x = "fmt") ∧ m.allQueryParameters ≠ []) ∨
        ((x = "bytes" ∨ x = "encoding/json") ∧ contentType.isSome = true) ∨
        (x = "encoding/json" ∧ (resultType response).isSome = true) ∨
        (x = "fmt" ∧ r.uriParameters ≠ []) := by
  have hite {c : Prop} [Decidable c] {as : List String} : x ∈ (if c then [] else as) ↔
    x ∈ as ∧ ¬c := by
    split <;> simp [*]
  have hite' {c : Prop} [Decidable c] {as : List String} : x ∈ (if c then as else []) ↔
    x ∈ as ∧ c := by
    split <;> simp [*]
  simp only [methodPaths, statementImports, List.mem_append, hite, hite', List.isEmpty_iff,
    List.mem_cons, List.not_mem_nil, or_false, or_assoc, ne_eq]

/-- The packages of types are not among those that statements need. -/
theorem packageOfType_notMem_methodPaths {q : String × String} (hq : q ∈ packageOfType)
    {r : Resource} {m : Method} {response : Option Response} {contentType : Option String} :
    q.2 ∉ methodPaths r m response contentType := by
  have hall : ∀ q ∈ packageOfType, q.2 ≠ "net/http" ∧ q.2 ≠ "net/url" ∧ q.2 ≠ "fmt" ∧
    q.2 ≠ "bytes" ∧
      q.2 ≠ "encoding/json" := by decide +kernel
  obtain ⟨hhttp, hurl, hfmt, hbytes, hjson⟩ := hall q hq
  simp [mem_methodPaths_iff, hhttp, hurl, hfmt, hbytes, hjson]

/-- A type text is that of a descriptor, the name of a struct for an operation, or of those that are
written out. -/
def IsTypeOf (name text : String) : Prop :=
  (∃ d, text = typeText d) ∨ (∃ s ∈ structEndings, text = name ++ s) ∨
    text ∈ ["*http.Response", "error", "string"]

/-- The type texts that are drafted for query parameters. -/
theorem QueryDrafted.isTypeOf {p : Package} {path name : String} {parameters : List Parameter}
    {args : List Arg} {ds : List Definition} {packages : List String}
    (h : QueryDrafted p path name parameters args ds packages) :
    (∀ a ∈ args, IsTypeOf name a.type) ∧ ∀ z ∈ ds, ∀ text ∈ typeTexts z, IsTypeOf name text := by
  have hname : IsTypeOf name (name ++ "Params") := .inr (.inl ⟨"Params", by decide, rfl⟩)
  cases h with
  | none _ => simp
  | there _ _ => simpa using hname
  | new _ =>
    refine ⟨by simpa using hname, fun z hz text htext => .inl ?_⟩
    rw [List.mem_singleton.1 hz, typeTexts_paramsStruct] at htext
    obtain ⟨p, -, rfl⟩ := List.mem_map.1 htext
    exact ⟨p.type, rfl⟩

/-- The type texts that are drafted for a body. -/
theorem BodyDrafted.isTypeOf {p : Package} {path name : String} {api : Model} {m : Method}
    {contentType : Option String} {args : List Arg} {ds : List Definition} {packages : List String}
    (h : BodyDrafted p path name api m contentType args ds packages) :
    (∀ a ∈ args, IsTypeOf name a.type) ∧ ∀ z ∈ ds, ∀ text ∈ typeTexts z, IsTypeOf name text := by
  have hname : IsTypeOf name (name ++ "Payload") := .inr (.inl ⟨"Payload", by decide, rfl⟩)
  cases h with
  | none _ => simp
  | @json body _ _ _ _ _ _ hpayload =>
    cases hpayload with
    | itself _ => simpa using .inl ⟨body.type, rfl⟩
    | there _ _ => simpa using hname
    | new _ _ =>
      refine ⟨by simpa using hname, fun z hz text htext => .inl ?_⟩
      rw [List.mem_singleton.1 hz, typeTexts_payloadStruct] at htext
      obtain ⟨p, -, rfl⟩ := List.mem_map.1 htext
      exact ⟨p.type, rfl⟩

/-- The type texts of an operation. -/
theorem MethodParts.Drafted.isTypeOf {path : String} {api : Model} {depth : Option Int}
    {p q : Package} {y : MethodParts} (h : y.Drafted path api depth p q) {z : Definition}
    (hz : z ∈ y.definitions) {text : String} (htext : text ∈ typeTexts z) :
    IsTypeOf y.name text := by
  obtain ⟨_, _, -, hquery, -, hbody⟩ := h.parts
  rcases List.mem_cons.1 hz with rfl | hz
  · rcases List.mem_append.1 htext with harg | hresult
    · obtain ⟨a, ha, rfl⟩ := List.mem_map.1 harg
      rcases List.mem_append.1 ha with ha | ha
      · rcases List.mem_append.1 ha with ha | ha
        · obtain ⟨p, -, rfl⟩ := List.mem_map.1 ha
          exact .inl ⟨p.type, rfl⟩
        · exact hquery.isTypeOf.1 a ha
      · exact hbody.isTypeOf.1 a ha
    · have hresult : text = "*http.Response" ∨ resultType y.response = some text ∨
        text = "error" := by
        simpa [MethodParts.func, resultTypes] using hresult
      obtain rfl | hresult | rfl := hresult
      · exact .inr (.inr (by decide))
      · obtain ⟨d, -, rfl, -⟩ := resultType_eq_some_iff.1 hresult
        exact .inl ⟨d, rfl⟩
      · exact .inr (.inr (by decide))
  · rcases List.mem_append.1 hz with hz | hz
    · exact hquery.isTypeOf.2 z hz text htext
    · exact hbody.isTypeOf.2 z hz text htext

/-- A type text of an operation contains a type of another package exactly if it is about it, as
names of operations are identifiers. -/
theorem IsTypeOf.infix_iff {name text : String} (h : IsTypeOf name text)
    (hname : Alphanumeric name.toList) {q : String × String} (hq : q ∈ packageOfType) :
    q.1.toList <:+: text.toList ↔ baseType text = q.1 := by
  obtain ⟨d, rfl⟩ | ⟨s, hs, rfl⟩ | hfixed := h
  · exact infix_typeText_iff hq d
  · have hending : ∀ s ∈ structEndings, Alphanumeric s.toList := by decide +kernel
    have halpha : Alphanumeric (name ++ s).toList := by
      rw [String.toList_append]
      exact hname.append (hending s hs)
    exact iff_of_false (not_infix_of_alphanumeric hq halpha) (baseType_append_ne hq hs name)
  · have hall : ∀ text ∈ ["*http.Response", "error", "string"], ∀ q ∈ packageOfType,
        (q.1.toList <:+: text.toList ↔ baseType text = q.1) := by decide +kernel
    exact hall text hfixed q hq

/-- A file holds the definitions of operations and what they import. -/
structure HoldsOperations (path : String) (api : Model) (depth : Option Int) (f : File)
    (ys : List MethodParts) : Prop where
  /-- Every operation has its parts. -/
  operations : ys.map MethodParts.operation = api.operations
  /-- They are drafted. -/
  drafted : ∀ y ∈ ys, ∃ p q, y.Drafted path api depth p q
  /-- Their structs were new. -/
  imported : ∀ y ∈ ys, y.Imported
  /-- The imports are those of the operations. -/
  imports : ∀ x, x ∈ f.imports ↔ ∃ y ∈ ys, x ∈ y.imports ∨ x ∈ y.packages
  /-- The definitions are those of the operations, behind the function for the base address. -/
  definitions : ∀ z, z ∈ f.definitions ↔ z = .func (baseFunc api) ∨ ∃ y ∈ ys, z ∈ y.definitions

namespace HoldsOperations

variable {path : String} {api : Model} {depth : Option Int} {f : File} {ys : List MethodParts}

/-- What holds of some operation of the API holds of one that the file is drafted for. -/
theorem exists_operation_iff (h : HoldsOperations path api depth f ys)
    {holds : Resource × Method → Prop} :
    (∃ o ∈ api.operations, holds o) ↔ ∃ y ∈ ys, holds (y.resource, y.method) := by
  rw [← h.operations]
  simp [MethodParts.operation]

/-- The imports are those for statements and those of types. -/
theorem mem_imports_iff (h : HoldsOperations path api depth f ys) {x : String} : x ∈ f.imports ↔
    (∃ y ∈ ys, x ∈ methodPaths y.resource y.method y.response y.contentType) ∨ ∃ q ∈ packageOfType,
      x = q.2 ∧ ∃ y ∈ ys, (∃ z ∈ y.definitions, ∃ text ∈ typeTexts z, baseType text = q.1) ∨
        HoldsInline y.method q.1 := by
  rw [h.imports]
  constructor
  · rintro ⟨y, hy, hx | hx⟩
    · exact .inl ⟨y, hy, (h.imported y hy).imports ▸ hx⟩
    · obtain ⟨q, hq, hxq, hneed⟩ := ((h.imported y hy).packages x).1 hx
      exact .inr ⟨q, hq, hxq, y, hy, hneed⟩
  · rintro (⟨y, hy, hx⟩ | ⟨q, hq, hxq, y, hy, hneed⟩)
    · exact ⟨y, hy, .inl ((h.imported y hy).imports ▸ hx)⟩
    · exact ⟨y, hy, .inr (((h.imported y hy).packages x).2 ⟨q, hq, hxq, hneed⟩)⟩

/-- An import for statements is one of an operation. -/
theorem mem_imports_of_statement (h : HoldsOperations path api depth f ys) {x : String}
    (hx : x ∈ statementPaths) : x ∈ f.imports ↔
      ∃ y ∈ ys, x ∈ methodPaths y.resource y.method y.response y.contentType := by
  have hall : ∀ q ∈ packageOfType, q.2 ∉ statementPaths := by decide +kernel
  rw [h.mem_imports_iff]
  refine or_iff_left ?_
  rintro ⟨q, hq, rfl, -⟩
  exact hall q hq hx

/-- The file is about what its operations are about. -/
theorem isAbout_iff (h : HoldsOperations path api depth f ys) {q : String × String}
    (hq : q ∈ packageOfType) : IsAbout f q.1 ↔
      ∃ y ∈ ys, ∃ z ∈ y.definitions, ∃ text ∈ typeTexts z, baseType text = q.1 := by
  have hbase : ∀ q ∈ packageOfType, baseType "string" ≠ q.1 := by decide +kernel
  simp only [IsAbout, h.definitions, or_and_right, exists_or, exists_eq_left, typeTexts, baseFunc,
    List.map_nil, List.nil_append, List.mem_singleton, hbase q hq, false_or]
  grind

/-- The functions are those of the operations, besides the one for the base address. -/
theorem mem_funcs_iff (h : HoldsOperations path api depth f ys) {g : Func} :
    g ∈ f.funcs ↔ g = baseFunc api ∨ ∃ y ∈ ys, g = y.func := by
  have hfunc (y : MethodParts) (hy : y ∈ ys) : Definition.func g ∈ y.definitions ↔ g = y.func := by
    obtain ⟨_, _, hdrafted⟩ := h.drafted y hy
    exact hdrafted.func_mem_definitions
  have hmem : g ∈ f.funcs ↔ Definition.func g ∈ f.definitions := by simp [File.definitions]
  rw [hmem, h.definitions, Definition.func.injEq]
  exact or_congr_right (exists_congr fun y => and_congr_right (hfunc y))

/-- An import for statements is used in the body of a function, and what is used is imported. -/
theorem used (h : HoldsOperations path api depth f ys) {x : String} (hx : x ∈ statementPaths) :
    x ∈ f.imports ↔ ∃ g ∈ f.funcs, packageName x ∈ identifiers (Text.concat g.body) := by
  have hbody (y : MethodParts) :=
    packageName_mem_identifiers_methodBody y.resource y.method y.response
    y.contentType hx
  rw [h.mem_imports_of_statement hx]
  constructor
  · rintro ⟨y, hy, hpath⟩
    exact ⟨y.func, h.mem_funcs_iff.2 (.inr ⟨y, hy, rfl⟩), (hbody y).2 hpath⟩
  · rintro ⟨g, hg, huses⟩
    obtain rfl | ⟨y, hy, rfl⟩ := h.mem_funcs_iff.1 hg
    · exact absurd huses (packageName_notMem_baseFunc api hx)
    · exact ⟨y, hy, (hbody y).1 huses⟩

/-- With the verbs of documents, the file is about the types that its type texts contain. -/
theorem contains_iff (h : HoldsOperations path api depth f ys)
    (hverbs : ∀ o ∈ api.operations, o.2.verb ∈ verbs) {q : String × String}
    (hq : q ∈ packageOfType) :
    Contains f q.1 ↔ IsAbout f q.1 := by
  have htext (z : Definition) (hz : z ∈ f.definitions) (text : String)
    (htext : text ∈ typeTexts z) :
      q.1.toList <:+: text.toList ↔ baseType text = q.1 := by
    obtain rfl | ⟨y, hy, hz⟩ := (h.definitions z).1 hz
    · have hstring : IsTypeOf "" text := .inr (.inr (by
        have : text = "string" := by simpa [typeTexts, baseFunc] using htext
        rw [this]
        decide))
      exact hstring.infix_iff (by decide) hq
    · obtain ⟨_, _, hdrafted⟩ := h.drafted y hy
      have ho : y.operation ∈ api.operations := h.operations ▸ List.mem_map_of_mem hy
      exact (hdrafted.isTypeOf hz htext).infix_iff
        (alphanumeric_configuredName (hverbs _ ho) hdrafted.name) hq
  exact exists_congr fun z => and_congr_right fun hz =>
    exists_congr fun text => and_congr_right fun ht => htext z hz text ht

/-- What the file imports. -/
theorem operationImports (h : HoldsOperations path api depth f ys) : OperationImports api f := by
  have hresult (y : MethodParts) (hy : y ∈ ys) :
      (resultType y.response).isSome = true ↔ HasResult y.method := by
    obtain ⟨_, _, hdrafted⟩ := h.drafted y hy
    exact isSome_resultType_iff hdrafted.response
  have hquery (m : Method) : m.allQueryParameters ≠ [] ↔ HasQuery m := by
    rw [ne_eq, allQueryParameters_eq_nil, not_not]
  have hoperations : api.operations ≠ [] ↔ ∃ y, y ∈ ys := by
    rw [← h.operations, ne_eq, List.map_eq_nil_iff]
    exact ⟨List.exists_mem_of_ne_nil ys, fun ⟨y, hy⟩ => List.ne_nil_of_mem hy⟩
  have hinjective : ∀ q ∈ packageOfType, ∀ r ∈ packageOfType, q.2 = r.2 → q = r := by decide +kernel
  refine ⟨?_, ?_, ?_, ?_, ?_, fun q hq => ?_, fun x hx => ?_, fun x hx => h.used hx,
    fun hverbs q hq => h.contains_iff hverbs hq⟩
  · rw [h.mem_imports_of_statement (by decide), hoperations]
    simp [mem_methodPaths_iff]
  · rw [h.mem_imports_of_statement (by decide), h.exists_operation_iff]
    simp [mem_methodPaths_iff, hquery, or_comm]
  · rw [h.mem_imports_of_statement (by decide), h.exists_operation_iff]
    simp [mem_methodPaths_iff, hquery]
  · rw [h.mem_imports_of_statement (by decide), h.exists_operation_iff]
    refine exists_congr fun y => and_congr_right fun hy => ?_
    simp [mem_methodPaths_iff, (h.imported y hy).contentType]
  · rw [h.mem_imports_of_statement (by decide), h.exists_operation_iff]
    refine exists_congr fun y => and_congr_right fun hy => ?_
    simp [mem_methodPaths_iff, (h.imported y hy).contentType, hresult y hy]
  · rw [h.mem_imports_iff, h.isAbout_iff hq, h.exists_operation_iff, ← exists_or]
    have hnone : ¬∃ y ∈ ys, q.2 ∈ methodPaths y.resource y.method y.response y.contentType :=
      fun ⟨_, _, hmem⟩ => packageOfType_notMem_methodPaths hq hmem
    rw [or_iff_right hnone]
    constructor
    · rintro ⟨r, hr, hqr, y, hy, hneed⟩
      obtain rfl := hinjective q hq r hr hqr
      exact ⟨y, hneed.imp (⟨hy, ·⟩) (⟨hy, ·⟩)⟩
    · rintro ⟨y, ⟨hy, habout⟩ | ⟨hy, hheld⟩⟩
      · exact ⟨q, hq, rfl, y, hy, .inl habout⟩
      · exact ⟨q, hq, rfl, y, hy, .inr hheld⟩
  · obtain ⟨y, -, hpath⟩ | ⟨q, hq, rfl, -⟩ := h.mem_imports_iff.1 hx
    · left
      rcases mem_methodPaths_iff.1 hpath with rfl | ⟨rfl | rfl, -⟩ | ⟨rfl | rfl, -⟩ | ⟨rfl,
        -⟩ | ⟨rfl, -⟩ <;> decide
    · exact .inr ⟨q, hq, rfl⟩

end HoldsOperations

/-- The file for operations imports what it uses. -/
theorem operationImports_of_generateEndpoints {path : String} {api : Model} {depth : Option Int}
    {d d' : Draft} {u : Unit} (hp : d.package.Grounded)
    (hfile : d.package.file? path = some (File.empty path))
    (h : (generateEndpoints path api depth).run d = .ok u d') :
    ∃ f, d'.package.file? path = some f ∧ OperationImports api f := by
  obtain ⟨p₁, p₂, ys, -, hbase, hys, htypes⟩ := generateEndpoints_eq_ok (ready_of_empty hp hfile)
    (fun f hf => by
      rw [hfile, Option.some.injEq] at hf
      rw [← hf]
      rfl) h
  obtain ⟨f, hf, himports, hdefinitions⟩ := exists_file_of_appends
    ((hbase.trans hys.appends).trans htypes) hfile
  have hholds : HoldsOperations path api depth f ys := by
    refine ⟨hys.operations, fun y hy => hys.of_mem hy, fun y hy => ?_, fun x => ?_, fun z => ?_⟩
    · obtain ⟨pre, post, hsplit⟩ := List.append_of_mem hy
      obtain ⟨_, _, _, _, -, hquery, hnoParams, -, hbody, hnoPayload⟩ :=
        hys.not_hasStruct (hbase.file _ hfile) rfl hsplit
      exact y.imported hquery hnoParams hbody hnoPayload
    · rw [himports]
      simp [← exists_or, ← and_or_left]
    · rw [hdefinitions]
      simp
  exact ⟨f, hf, hholds.operationImports⟩

/-- Imports are exact. Into an empty file, the declared types are drafted with exactly the packages
whose types the file contains; and operations are drafted with the packages that their functions use
and those of the types that the file is about, and besides with that of a body's type which a struct
stands for. -/
theorem imports_exact (path : String) (api : Model) (depth : Option Int) (d : Draft)
    (hp : d.package.Grounded) (hfile : d.package.file? path = some (File.empty path)) :
    (∀ u d', (generateModels path api).run d = .ok u d' → ∃ f, d'.package.file? path = some f ∧
      ∀ x, x ∈ f.imports ↔ ∃ q ∈ packageOfType, x = q.2 ∧ Contains f q.1) ∧
    ∀ u d', (generateEndpoints path api depth).run d = .ok u d' →
      ∃ f, d'.package.file? path = some f ∧ OperationImports api f :=
  ⟨fun _ _ h => mem_imports_of_generateModels hp hfile h,
    fun _ _ h => operationImports_of_generateEndpoints hp hfile h⟩

/-- A method with a body that has a property of its own, and a type that a struct stands for. -/
def stampItem : Method where
  verb := "put"
  displayName := none
  queryParameters := []
  bodies := [⟨"application/json", ⟨"datetime", true, none, []⟩,
    [⟨"at", ⟨"string", true, none, []⟩, "at"⟩]⟩]
  responses := []
  traits := []

/-- An API with the method that declares a struct with a point in time and a name for such
points. -/
def stampApi : Model where
  __ := itemApi [stampItem]
  types := [
    ⟨"Event", [], [⟨"at", ⟨"datetime", true, none, []⟩, "at"⟩], ⟨"object", true, none, []⟩⟩,
    ⟨"Stamp", [], [], ⟨"datetime", true, none, []⟩⟩]

/-- The types that the API declares. -/
theorem types_stampApi : stampApi.types = [
    ⟨"Event", [], [⟨"at", ⟨"datetime", true, none, []⟩, "at"⟩], ⟨"object", true, none, []⟩⟩,
    ⟨"Stamp", [], [], ⟨"datetime", true, none, []⟩⟩] :=
  rfl

/-- The struct and the name for its field's type need one package, which is imported. For the
method, the package of the body's type is imported needlessly, and all other imports are used. -/
theorem imports_exact_stamped :
    (∃ d' f, (generateModels "endpoints.go" stampApi).run itemDraft = .ok () d' ∧
      d'.package.file? "endpoints.go" = some f ∧
      (∀ x, x ∈ f.imports ↔ ∃ q ∈ packageOfType, x = q.2 ∧ Contains f q.1) ∧
      f.structs = [⟨"Event", [⟨"At", "time.Time", "json:\"at\""⟩]⟩] ∧
      f.typeDefs = [⟨"Stamp", "time.Time"⟩] ∧ "time" ∈ f.imports) ∧
    ∃ d' f, (generateEndpoints "endpoints.go" stampApi (some 0)).run itemDraft = .ok () d' ∧
      d'.package.file? "endpoints.go" = some f ∧ OperationImports stampApi f ∧
      "time" ∈ f.imports ∧ ¬IsAbout f "time.Time" := by
  have hgrounded : itemDraft.package.Grounded := Package.grounded_after _
  have hfile : itemDraft.package.file? "endpoints.go" = some (File.empty "endpoints.go") := by
    decide +kernel
  obtain ⟨hmodels, hendpoints⟩ :=
    imports_exact "endpoints.go" stampApi (some 0) itemDraft hgrounded hfile
  constructor
  · have hcheck : Steps.passes
        (fun _ d' => (d'.package.file? "endpoints.go").any fun f =>
          decide (f.structs = [⟨"Event", [⟨"At", "time.Time", "json:\"at\""⟩]⟩] ∧
            f.typeDefs = [⟨"Stamp", "time.Time"⟩] ∧ "time" ∈ f.imports))
        (generateModels "endpoints.go" stampApi) itemDraft = true := by
      simp only [generateModels, generateModel, isObjectType, generateStruct, types_stampApi,
        List.mapM_cons, List.mapM_nil, lineage_eq_upTo]
      decide +kernel
    obtain ⟨_, d', hrun, hholds⟩ := Steps.exists_run_of_passes hcheck
    obtain ⟨f, hf, himports⟩ := hmodels _ _ hrun
    rw [hf] at hholds
    exact ⟨d', f, hrun, hf, himports, by simpa using hholds⟩
  · have hcheck : Steps.passes
        (fun _ d' => (d'.package.file? "endpoints.go").any fun f => decide (¬IsAbout f "time.Time"))
        (generateEndpoints "endpoints.go" stampApi (some 0)) itemDraft = true := by
      simp only [generateEndpoints, generateMethods, generateMethod, generateBody, generatePayload,
        generateStruct, lineage_eq_upTo]
      decide +kernel
    obtain ⟨_, d', hrun, habout⟩ := Steps.exists_run_of_passes hcheck
    obtain ⟨f, hf, himports⟩ := hendpoints _ _ hrun
    rw [hf] at habout
    have htime : "time" ∈ f.imports := (himports.typed ("time.Time", "time") (by decide)).2
      (.inr ⟨_, List.mem_cons_self, _, _, rfl, by decide, by decide +kernel⟩)
    exact ⟨d', f, hrun, hf, himports, htime, by simpa using habout⟩

end RamlClient.Client
