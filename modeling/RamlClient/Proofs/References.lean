import RamlClient.Proofs.Building
import RamlClient.Proofs.Mentions
/-!
# References to types

If all kinds of an API are built in or declared, a type text of its client refers to a type that is
there, unless the innermost kind is `array` or `union` by itself: these two are built in, but they
have no Go type of their own.
-/

namespace RamlClient.Client

open Api Go

/-! ### References that resolve -/

/-- A kind is built in and has no Go type. -/
def IsBareKind (kind : String) : Prop := kind = "array" ∨ kind = "union"

instance (kind : String) : Decidable (IsBareKind kind) :=
  inferInstanceAs (Decidable (kind = "array" ∨ kind = "union"))

/-- A built-in kind that is no scalar has no Go type. -/
theorem isBareKind_of_scalarType? {kind : String} (hbuiltin : kind ∈ builtinKinds)
    (hnone : scalarType? kind = none) : IsBareKind kind := by
  have hall : ∀ k ∈ builtinKinds, scalarType? k = none → k = "array" ∨ k = "union" := by
    decide
  exact hall kind hbuiltin hnone

/-- Such a kind is translated as if it were declared. -/
theorem kindType_of_isBareKind {kind : String} (h : IsBareKind kind) :
    kindType kind = exportedName kind ∧ kindType kind ∉ knownTypes ∧ kindType kind ≠ "" := by
  obtain rfl | rfl := h <;> decide

/-- The Go name of a bare kind is not the name of a struct for an operation. -/
theorem exportedName_ne_of_isBareKind {kind : String} (h : IsBareKind kind) (name : String) :
    exportedName kind ≠ name ++ "Params" ∧ exportedName kind ≠ name ++ "Payload" := by
  have hlast : (exportedName kind).toList.getLast? ≠ some 's' ∧
      (exportedName kind).toList.getLast? ≠ some 'd' := by
    obtain rfl | rfl := h <;> decide
  have hparams : "Params".toList.getLast? = some 's' := by decide
  have hpayload : "Payload".toList.getLast? = some 'd' := by decide
  refine ⟨fun heq => hlast.1 ?_, fun heq => hlast.2 ?_⟩
  · rw [heq, String.toList_append, List.getLast?_append, hparams, Option.some_or]
  · rw [heq, String.toList_append, List.getLast?_append, hpayload, Option.some_or]

namespace ClientStages.Drafted

variable {depth : Option Int} {api : Model} {p q : Package} {c : ClientStages}

/-- The Go name of a bare kind refers to a type exactly if a declared type has that identifier. -/
theorem refersToType_of_isBareKind (h : c.Drafted depth api p q) {kind : String}
    (hkind : IsBareKind kind) :
    refersToType q (exportedName kind) = true ↔
    ∃ t ∈ api.types, exportedName t.name = exportedName kind := by
  rw [refersToType_iff h.wellFormed_end]
  constructor
  · rintro ⟨x, hx, hfunc, hname⟩
    obtain hx | hx := h.mem_definitions.1 hx
    · obtain ⟨t, ht, hmodel⟩ := h.exists_declared hx
      exact ⟨t, ht, hmodel.symm.trans hname⟩
    · rcases List.mem_cons.1 hx with rfl | hx
      · exact absurd rfl hfunc
      · obtain ⟨y, hy, hx⟩ := List.mem_flatMap.1 hx
        obtain ⟨hparams, hpayload⟩ := exportedName_ne_of_isBareKind hkind y.name
        obtain hsuffix | hsuffix := h.exists_operation hy hx hfunc
        · exact absurd (hname.symm.trans hsuffix) hparams
        · exact absurd (hname.symm.trans hsuffix) hpayload
  · rintro ⟨t, ht, hname⟩
    obtain ⟨x, hx, hfunc, hmodel⟩ := h.exists_name ht
    exact ⟨x, h.mem_definitions.2 (.inl hx), hfunc, hmodel.trans hname⟩

/-- The text of a descriptor of a known kind resolves, unless the kind is a bare one without a
type. -/
theorem resolves_of_hasKnownKind (h : c.Drafted depth api p q) (hholds : HoldsTypes api q)
    {d : TypeDescriptor} (hknown : hasKnownKind api d = true)
    (hbare : ∀ kind, leafKind d = some kind → IsBareKind kind →
      ∃ t ∈ api.types, exportedName t.name = exportedName kind) : Resolves q (typeText d) := by
  rw [Resolves, baseType_typeText, leafType]
  cases hleaf : leafKind d with
  | none => exact .inl (by decide)
  | some kind =>
    rw [Option.map_some, Option.getD_some, kindType]
    cases hscalar : scalarType? kind with
    | some type => exact .inl (mem_knownTypes_of_scalarType? hscalar).1
    | none =>
      rw [Option.getD_none]
      right
      simp only [hasKnownKind, hleaf, Option.all_some, Bool.or_eq_true,
        List.contains_iff_mem] at hknown
      obtain hbuiltin | hdeclared := hknown
      · have hkind := isBareKind_of_scalarType? hbuiltin hscalar
        exact (h.refersToType_of_isBareKind hkind).2 (hbare kind hleaf hkind)
      · obtain ⟨t, ht⟩ := Option.isSome_iff_exists.1 hdeclared
        rw [← name_of_findType? ht]
        exact hholds.declared t (mem_types_of_findType? ht)

end ClientStages.Drafted

/-- If all kinds are built in or declared, every type text of a client refers to a type that is
there exactly if no descriptor that is mentioned has the innermost kind `array` or `union` without a
declared type of that identifier. -/
theorem typeTexts_resolve_iff {entries : List (Value × Value)} {api : Model}
    (hbuild : buildModel entries = .ok api) (hknown : KindsKnown api) {names notes : List String}
    {depth : Option Int} {u : Unit} {d' : Draft}
    (h : (draftDefinitions depth api).run ⟨(Package.empty.reserve names).1, notes⟩ = .ok u d') :
    (∀ text ∈ packageTypeTexts d'.package, Resolves d'.package text) ↔
      ∀ d kind, Mentioned depth api d → leafKind d = some kind → IsBareKind kind →
        ∃ t ∈ api.types, exportedName t.name = exportedName kind := by
  have hverbs := mem_verbs_of_buildModel hbuild
  obtain ⟨c, hc⟩ := draftDefinitions_reserved_eq_ok h
  have hholds := hc.holdsTypes_end hverbs
  constructor
  · intro hall d kind hd hleaf hkind
    obtain ⟨htype, hunknown, hne⟩ := kindType_of_isBareKind hkind
    have hbase : baseType (typeText d) = kindType kind := by
      rw [baseType_typeText, leafType, hleaf]
      rfl
    have htext : typeText d ≠ "" := by
      intro hempty
      rw [hempty] at hbase
      exact hne (hbase.symm.trans (by decide))
    have hresolves := hall _ (hc.mem_of_mentioned hverbs hknown hd htext)
    rw [Resolves, hbase] at hresolves
    obtain hmem | hrefers := hresolves
    · exact absurd hmem hunknown
    · exact (hc.refersToType_of_isBareKind hkind).1 (htype ▸ hrefers)
  · intro hbare text htext
    obtain hfixed | ⟨s, hs, rfl⟩ | ⟨d, hd, rfl⟩ := hc.typeText_of_mem hverbs hknown htext
    · have hall : ∀ text ∈ ["string", "*http.Response", "error"], baseType text ∈ knownTypes := by
        decide +kernel
      exact .inl (hall text hfixed)
    · have hrefers : refersToType d'.package s.name = true :=
        (refersToType_iff hc.wellFormed_end).2 ⟨_, hs, by simp, rfl⟩
      have halpha := hholds.alphanumeric _ hrefers
      rw [Resolves, baseType_of_unmarked (.of_alphanumeric halpha)]
      exact .inr hrefers
    · exact hc.resolves_of_hasKnownKind hholds (hknown d hd.mem_descriptors) fun kind =>
        hbare d kind hd

/-- A document with a query parameter. -/
def taggedDocument (type : Value) : List (Value × Value) :=
  [(.text "title", .text "T"),
   (.text "/items", .mapping
     [(.text "get", .mapping [(.text "queryParameters", .mapping [(.text "tags", type)])])])]

/-- If the parameter is declared as a mapping with the type `array`, all type texts resolve. -/
theorem typeTexts_resolve_tagged : ∃ api d',
    buildModel (taggedDocument (.mapping [(.text "type", .text "array")])) = .ok api ∧
    (draftDefinitions (some 0) api).run ⟨(Package.empty.reserve ["Client"]).1, []⟩ = .ok () d' ∧
    "[]interface\x7b\x7d" ∈ packageTypeTexts d'.package ∧
    ∀ text ∈ packageTypeTexts d'.package, Resolves d'.package text := by
  have hany : (draftedPackage? ["Client"] (some 0)
      (taggedDocument (.mapping [(.text "type", .text "array")]))).any (fun p =>
        (packageTypeTexts p).contains "[]interface\x7b\x7d") = true := by
    decide +kernel
  obtain ⟨p, hp, htext⟩ := (Option.any_eq_true _ _).1 hany
  obtain ⟨api, d', hapi, hrun, rfl⟩ := draftedPackage?_eq_some hp
  have hkinds :
    (buildModel (taggedDocument (.mapping [(.text "type", .text "array")]))).toOption.all
      (fun api => decide (KindsKnown api) &&
        (descriptors api).all fun d => (leafKind d).all fun kind => !decide (IsBareKind kind)) =
          true := by
    decide +kernel
  simp only [hapi, Except.toOption, Option.all_some, Bool.and_eq_true, decide_eq_true_eq,
    List.all_eq_true] at hkinds
  obtain ⟨hknown, hbare⟩ := hkinds
  refine ⟨api, d', hapi, hrun, by simpa using htext,
    (typeTexts_resolve_iff hapi hknown hrun).2 fun d kind hd hleaf hkind => ?_⟩
  have hnot := hbare d hd.mem_descriptors
  simp only [hleaf, Option.all_some, Bool.not_eq_true', decide_eq_false_iff_not] at hnot
  exact absurd hkind hnot

/-- If it is declared by the text `array`, its type text does not. -/
theorem not_resolves_tagged : ∃ api d', buildModel (taggedDocument (.text "array")) = .ok api ∧
    KindsKnown api ∧ (draftDefinitions (some 0) api).run ⟨Package.empty, []⟩ = .ok () d' ∧
    ∃ text ∈ packageTypeTexts d'.package, ¬Resolves d'.package text := by
  have hany : (draftedPackage? [] (some 0) (taggedDocument (.text "array"))).any (fun p =>
      (packageTypeTexts p).any fun text => !decide (Resolves p text)) = true := by
    decide +kernel
  obtain ⟨p, hp, htext⟩ := (Option.any_eq_true _ _).1 hany
  obtain ⟨api, d', hapi, hrun, rfl⟩ := draftedPackage?_eq_some hp
  have hkinds : (buildModel (taggedDocument (.text "array"))).toOption.all
      (fun api => decide (KindsKnown api)) = true := by
    decide +kernel
  simp only [hapi, Except.toOption, Option.all_some, decide_eq_true_eq] at hkinds
  obtain ⟨text, hmem, hnot⟩ := List.any_eq_true.1 htext
  exact ⟨api, d', hapi, hkinds, hrun, text, hmem, by simpa using hnot⟩

end RamlClient.Client
