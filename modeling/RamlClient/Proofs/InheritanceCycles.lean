import RamlClient.Proofs.InheritanceGraph
import RamlClient.Proofs.StructDrafts
import RamlClient.Proofs.TypeOrder
/-!
# Cycles of inheritance

A struct is drafted for a declared type exactly if no cycle of inheritance can be reached from it.
If one can be reached, the failure names a chain that leads back to itself. A type that is an object
by what comes before the cycle is still told to be one, and then the draft of its struct fails.
-/

namespace RamlClient.Client

open Api Go

variable {api : Model} {t : TypeDeclaration}

/-! ### Walks end -/

/-- A walk from a declared type goes no deeper than there are declared types. -/
theorem lineageUpTo_eq (ht : Declared api t) {depth : Nat} (h : api.types.length < depth) :
    lineageUpTo api depth [] t = lineage api t := by
  refine (lineageFrom_eq_upTo api [] t depth ?_).symm
  have hfound : (api.findType? t.name).isSome := by
    rw [show api.findType? t.name = some t from ht]
    rfl
  have hcount : api.types.countP (fun d => decide (d.name ∉ [])) ≤ api.types.length :=
    List.countP_le_length
  unfold remaining
  rw [if_pos hfound]
  omega

/-! ### Structs -/

/-- A struct of a declared type is drafted exactly if no cycle can be reached. -/
theorem generateStruct_returns_iff (ht : Declared api t) {path name : String} {d : Draft}
    (h : d.package.CanHaveStruct path name) :
    (∃ packages d', (generateStruct path api name t).run d = .ok packages d') ↔
    ¬ReachesCycle api t := by
  rw [exists_run_generateStruct_iff h, lineage_eq_none_iff ht]

/-- The draft of a struct of a declared type fails on a cycle exactly if one can be reached. -/
theorem generateStruct_fails_iff (ht : Declared api t) {path name : String} {d : Draft}
    (h : d.package.CanHaveStruct path name) :
    (∃ chain d', (generateStruct path api name t).run d =
      .error (.error (.model (.inheritanceCycle chain))) d') ↔ ReachesCycle api t := by
  rw [← not_iff_not, ← lineage_eq_none_iff ht]
  constructor
  · intro hnone
    rw [Option.eq_none_iff_forall_ne_some]
    intro chain hchain
    obtain ⟨d', hrun⟩ := (run_generateStruct_eq_error_iff h).2 ⟨chain, hchain, rfl⟩
    exact hnone ⟨chain, d', hrun⟩
  · rintro hnone ⟨chain, d', hrun⟩
    obtain ⟨_, hsome, -⟩ := (run_generateStruct_eq_error_iff h).1 ⟨d', hrun⟩
    rw [hnone] at hsome
    cases hsome

/-- Every failure of the draft of a struct names a chain that leads back to itself. -/
theorem leadsBack_of_generateStruct {path name : String} {d d' : Draft} {e : Failure}
    (h : d.package.CanHaveStruct path name)
    (hrun : (generateStruct path api name t).run d = .error e d') :
    ∃ chain, e = .error (.model (.inheritanceCycle chain)) ∧ LeadsBack api t chain := by
  obtain ⟨chain, hchain, rfl⟩ := (run_generateStruct_eq_error_iff h).1 ⟨d', hrun⟩
  exact ⟨chain, rfl, leadsBack_of_lineage hchain⟩

/-! ### Objects -/

/-- A declaration is an object by itself if it has properties or names `object`. -/
theorem isObjectByItself_iff {s : TypeDeclaration} :
    isObjectByItself s = true ↔ s.properties ≠ [] ∨ "object" ∈ s.supertypes := by
  simp [isObjectByItself]

/-- It cannot be told whether a declared type is an object only if a cycle can be reached. -/
theorem reachesCycle_of_isObjectType (ht : Declared api t) {e : Error}
    (h : isObjectType api t = .error e) :
    ReachesCycle api t ∧ ∃ chain, e = .model (.inheritanceCycle chain) ∧ LeadsBack api t chain := by
  obtain ⟨chain, hchain, rfl⟩ := isObjectType_eq_error h
  refine ⟨?_, chain, rfl, leadsBack_of_lineage hchain⟩
  by_contra hcycle
  rw [(lineage_eq_none_iff ht).2 hcycle] at hchain
  cases hchain

/-! ### All types -/

/-- A declared type of a free identifier can be declared exactly if no cycle can be reached from
it. -/
theorem declarable_iff (ht : Declared api t) {path : String} {p : Package}
    (hfree : p.isFree (exportedName t.name) (.defined ((modelOf api t).site path)) = true) :
    Declarable path api p t ↔ ¬ReachesCycle api t := by
  rw [← lineage_eq_none_iff ht]
  constructor
  · intro h
    cases hobject : isObject api t with
    | true => exact h.acyclic hobject
    | false => exact lineage_of_isObjectType_eq_false (hobject ▸ h.isObjectType)
  · intro hnone
    refine ⟨?_, fun _ => hnone, hfree⟩
    unfold isObject
    cases htold : isObjectType api t with
    | ok b => rfl
    | error e =>
      obtain ⟨chain, hchain, -⟩ := isObjectType_eq_error htold
      rw [hnone] at hchain
      cases hchain

/-- The definitions of types of different identifiers are drafted into a new package exactly if no
type inherits from itself. -/
theorem generateModels_returns_iff (hdistinct : (api.types.map fun t => exportedName t.name).Nodup)
    (path : String) (notes : List String) :
    (∃ d', (generateModels path api).run ⟨Package.empty.withFile path, notes⟩ = .ok () d') ↔
      Acyclic api := by
  have hfile : (Package.empty.withFile path).file? path = some (File.empty path) := by
    rw [Package.file?_withFile, if_pos rfl]
    rfl
  have hfree (n : String) (e : Entry) : (Package.empty.withFile path).isFree n e = true := by
    rw [Package.isFree, Package.entryOf?_withFile]
    rfl
  have hnames : (api.types.map (·.name)).Nodup :=
    .of_map exportedName (by simpa [Function.comp_def] using hdistinct)
  rw [(generateModels_eq_ok_iff hfile hdistinct).1, acyclic_iff]
  exact forall₂_congr fun t ht => declarable_iff (declared_of_mem hnames ht) (hfree _ _)

/-- Cycles of inheritance are found exactly. In an API of different type names, take any declared
type. The walk from it ends: it goes no deeper than there are declared types. A struct that the
package can have is drafted for it exactly if no cycle can be reached from it, and otherwise the
draft fails on a cycle; the chain of that failure leads from the type along supertypes back to a
name on it, and repeats no other name. Whether the type is an object can be told unless a cycle can
be reached, and it is one exactly if a type that can be reached has properties or lists `object`
among its supertypes. If the identifiers of the types differ too, their definitions are drafted into
a new package exactly if no type inherits from itself. -/
theorem inheritanceCycles_exact (hnames : (api.types.map (·.name)).Nodup) :
    (∀ t ∈ api.types,
      (∀ depth, api.types.length < depth → lineageUpTo api depth [] t = lineage api t) ∧
      (∀ path name d, d.package.CanHaveStruct path name →
        ((∃ packages d', (generateStruct path api name t).run d = .ok packages d') ↔
          ¬ReachesCycle api t) ∧
        ((∃ chain d', (generateStruct path api name t).run d =
          .error (.error (.model (.inheritanceCycle chain))) d') ↔ ReachesCycle api t) ∧
        ∀ e d', (generateStruct path api name t).run d = .error e d' →
          ∃ chain, e = .error (.model (.inheritanceCycle chain)) ∧ LeadsBack api t chain) ∧
      (∀ e, isObjectType api t = .error e →
        ReachesCycle api t ∧ ∃ chain, e = .model (.inheritanceCycle chain) ∧
        LeadsBack api t chain) ∧
      ∀ b, isObjectType api t = .ok b →
        (b = true ↔ ∃ s, Reaches api t s ∧ (s.properties ≠ [] ∨ "object" ∈ s.supertypes))) ∧
    ((api.types.map fun t => exportedName t.name).Nodup → ∀ path notes,
      (∃ d', (generateModels path api).run ⟨Package.empty.withFile path, notes⟩ = .ok () d') ↔
        Acyclic api) := by
  constructor
  · intro t hmem
    have ht : Declared api t := declared_of_mem hnames hmem
    refine ⟨fun depth hdepth => lineageUpTo_eq ht hdepth, ?_, ?_, ?_⟩
    · intro path name d h
      exact ⟨generateStruct_returns_iff ht h, generateStruct_fails_iff ht h,
        fun e d' hrun => leadsBack_of_generateStruct h hrun⟩
    · intro e he
      exact reachesCycle_of_isObjectType ht he
    · intro b hb
      simp only [isObjectType_eq_ok hb, isObjectByItself_iff]
  · intro hdistinct path notes
    exact generateModels_returns_iff hdistinct path notes

/-- Types that share an ancestor, and two types that inherit from each other. -/
def familyApi : Model :=
  petApi [animalType, ⟨"wild", ["animal"], [], ⟨"animal", true, none, []⟩⟩,
    ⟨"tame", ["animal"], [], ⟨"animal", true, none, []⟩⟩,
    ⟨"ferret", ["wild", "tame"], [], ⟨"wild", true, none, []⟩⟩,
    ⟨"hen", ["egg"], [], ⟨"egg", true, none, []⟩⟩, ⟨"egg", ["hen"], [], ⟨"hen", true, none, []⟩⟩]

/-- A shared ancestor is no cycle, and a type that inherits from itself through another one is. -/
theorem inheritanceCycles_exact_family :
    ∃ ferret ∈ familyApi.types, ∃ hen ∈ familyApi.types, ferret.name = "ferret" ∧ hen.name = "hen" ∧
      (∃ packages d', (generateStruct "models.go" familyApi "Ferret" ferret).run petDraft =
        .ok packages d') ∧
      ¬ReachesCycle familyApi ferret ∧
      ReachesCycle familyApi hen ∧
      (∃ chain d', (generateStruct "models.go" familyApi "Hen" hen).run petDraft =
        .error (.error (.model (.inheritanceCycle chain))) d') ∧
      ¬∃ d', (generateModels "models.go" familyApi).run ⟨Package.empty.withFile "models.go", []⟩ =
        .ok () d' := by
  have hnames : (familyApi.types.map (·.name)).Nodup := by decide
  obtain ⟨htypes, hall⟩ := inheritanceCycles_exact hnames
  have hferret : familyApi.types[3] ∈ familyApi.types := by simp
  have hhen : familyApi.types[4] ∈ familyApi.types := by simp
  have hsucceeds :
    (generateStruct "models.go" familyApi "Ferret" familyApi.types[3]).succeeds petDraft =
      true := by
    simp only [generateStruct, lineage_eq_upTo]
    decide +kernel
  have hcan (name : String)
    (h : petDraft.package.isFree name (.defined ⟨"models.go", .struct, name⟩) =
      true) : petDraft.package.CanHaveStruct "models.go" name := .inr h
  have hrun := Drafting.exists_run_of_succeeds hsucceeds
  have hcycle : Derives familyApi familyApi.types[4] familyApi.types[4] := by
    have hthere : InheritsFrom familyApi familyApi.types[4] familyApi.types[5] := by
      rw [inheritsFrom_iff]
      exact ⟨"egg", by decide, by decide +kernel⟩
    have hback : InheritsFrom familyApi familyApi.types[5] familyApi.types[4] := by
      rw [inheritsFrom_iff]
      exact ⟨"hen", by decide, by decide +kernel⟩
    exact .tail (.single hthere) hback
  have hreaches : ReachesCycle familyApi familyApi.types[4] := ⟨_, .refl, hcycle⟩
  refine ⟨_, hferret, _, hhen, rfl, rfl, hrun, ?_, hreaches, ?_, ?_⟩
  · exact ((htypes _ hferret).2.1 _ _ _ (hcan "Ferret" (by decide +kernel))).1.1 hrun
  · exact ((htypes _ hhen).2.1 _ _ _ (hcan "Hen" (by decide +kernel))).2.1.2 hreaches
  · rw [hall (by decide +kernel)]
    intro hacyclic
    exact hacyclic _ hhen hcycle

end RamlClient.Client
