import Mathlib.Data.List.Infix
import RamlClient.Proofs.ImportSets
import RamlClient.Proofs.InheritanceGraph
import RamlClient.Proofs.StructDrafts
/-!
# Inheritance laid flat

The properties of a declaration, expanded through its supertypes, are a list: its own ones, and then
those of each declared supertype in order, expanded the same way. A struct for the declaration gets
a field for each property of that list whose field name is there for the first time.
-/

namespace RamlClient.Client

open Api Go

/-! ### First occurrences -/

/-- The members whose names are there for the first time: neither among some names nor the name of a
member at an earlier place. -/
def firstOccurrences {α : Type} (name : α → String) (names : List String) (as : List α) : List α :=
  (as.zipIdx.filter fun x : α × Nat =>
    decide (name x.1 ∉ names ∧ ∀ b ∈ as.take x.2, name b ≠ name x.1)).map (·.1)

/-- An element behind a row is a first occurrence if its name is new. -/
theorem firstOccurrences_concat {α : Type} (name : α → String) (names : List String) (as : List α)
    (a : α) :
    firstOccurrences name names (as ++ [a]) = firstOccurrences name names as ++
      if name a ∉ names ∧ ∀ b ∈ as, name b ≠ name a then [a] else [] := by
  have htake (x : α × Nat) (hx : x ∈ as.zipIdx) : (as ++ [a]).take x.2 = as.take x.2 := by
    have hlt : x.2 < as.length := by
      have := List.mem_zipIdx hx
      omega
    rw [List.take_append_of_le_length hlt.le]
  unfold firstOccurrences
  rw [List.zipIdx_append, List.filter_append, List.map_append]
  congr 1
  · congr 1
    apply List.filter_congr
    intro x hx
    rw [htake x hx]
  · rw [List.zipIdx_singleton, Nat.zero_add, List.filter_singleton, List.take_left]
    by_cases hnew : name a ∉ names ∧ ∀ b ∈ as, name b ≠ name a
    · rw [decide_eq_true hnew, if_pos hnew]
      rfl
    · rw [decide_eq_false hnew, if_neg hnew]
      rfl

/-- An element behind a row is a new member if its name is new. -/
theorem newMembers_concat {α : Type} (name : α → String) (names : List String) (as : List α)
    (a : α) :
    newMembers name names (as ++ [a]) = newMembers name names as ++
      if name a ∉ names ∧ ∀ b ∈ as, name b ≠ name a then [a] else [] := by
  induction as generalizing names with
  | nil => by_cases h : name a ∈ names <;> simp [newMembers, h]
  | cons b r ih =>
    rw [List.cons_append, newMembers, newMembers]
    split
    · rename_i hb
      rw [ih names]
      congr 1
      by_cases ha : name a ∈ names
      · simp [ha]
      · have hne : name b ≠ name a := fun heq => ha (heq ▸ hb)
        simp [ha, hne]
    · rw [ih, List.cons_append]
      simp only [List.forall_mem_cons, List.mem_append, List.mem_singleton, not_or, and_assoc,
        ne_eq, eq_comm (a := name b)]

/-- The new members are those whose names are there for the first time. -/
theorem newMembers_eq_firstOccurrences {α : Type} (name : α → String) (names : List String)
    (as : List α) : newMembers name names as = firstOccurrences name names as := by
  induction as using List.reverseRecOn with
  | nil => rfl
  | append_singleton as a ih => rw [newMembers_concat, firstOccurrences_concat, ih]

/-! ### Expansions -/

section

variable {api : Model} {t : TypeDeclaration}

/-- An expansion gives each declaration that can be reached its own properties, followed by the
expansion of each declared supertype in order. -/
def Expands (api : Model) (t : TypeDeclaration) (expand : TypeDeclaration → List Property) : Prop :=
  ∀ e, Reaches api t e → expand e = e.properties ++ (parents api e).flatMap expand

/-- A walk that does not lead back to itself visits the same whatever way it has come. -/
theorem lineageFrom_fst_eq {chain other : List String} {current : TypeDeclaration}
    (h : (lineageFrom api chain current).2 = none) (h' : (lineageFrom api other current).2 = none) :
    (lineageFrom api chain current).1 = (lineageFrom api other current).1 := by
  induction chain, current using walk_induction api generalizing other with
  | seen chain current hmem => exact absurd hmem (lineageFrom_eq_none h).1
  | fresh chain current hmem ih =>
    obtain ⟨-, hparents, hall⟩ := lineageFrom_eq_none h
    obtain ⟨-, hparents', hall'⟩ := lineageFrom_eq_none h'
    rw [hall, hall']
    congr 1
    apply List.flatMap_congr
    intro parent hparent
    exact ih parent hparent (hparents parent hparent) (hparents' parent hparent)

/-- The properties along lineages are an expansion. -/
theorem expands_lineage (ht : Declared api t) (h : ¬ReachesCycle api t) :
    Expands api t fun e => (lineage api e).1.flatMap (·.properties) := by
  intro e he
  have hnone {d : TypeDeclaration} (hd : Reaches api t d) : (lineage api d).2 = none := by
    rw [lineage_eq_none_iff (hd.declared ht)]
    rintro ⟨c, hc, hcycle⟩
    exact h ⟨c, hd.trans hc, hcycle⟩
  obtain ⟨-, hparents, hall⟩ := lineageFrom_eq_none (hnone he)
  have hlineages : (lineage api e).1 = e :: (parents api e).flatMap fun p => (lineage api p).1 := by
    rw [lineage, hall]
    congr 1
    apply List.flatMap_congr
    intro parent hparent
    exact lineageFrom_fst_eq (hparents parent hparent) (hnone (he.tail hparent))
  simp only [hlineages, List.flatMap_cons, List.flatMap_assoc]

/-- Every expansion gives a declaration the properties along its lineage. -/
theorem Expands.eq_of_lineageFrom {expand : TypeDeclaration → List Property}
    (hexpand : Expands api t expand) {chain : List String} {current : TypeDeclaration}
    (hreach : Reaches api t current) (h : (lineageFrom api chain current).2 = none) :
    expand current = (lineageFrom api chain current).1.flatMap (·.properties) := by
  induction chain, current using walk_induction api with
  | seen chain current hmem => exact absurd hmem (lineageFrom_eq_none h).1
  | fresh chain current hmem ih =>
    obtain ⟨-, hparents, hall⟩ := lineageFrom_eq_none h
    rw [hall, hexpand current hreach, List.flatMap_cons, List.flatMap_assoc]
    congr 1
    apply List.flatMap_congr
    intro parent hparent
    exact ih parent hparent (hreach.tail hparent) (hparents parent hparent)

end

/-! ### Structs laid flat -/

/-- The packages of some types are those of the types of other packages that their texts contain. -/
theorem mem_flatMap_typePackages_iff {properties : List Property} {x : String} :
    x ∈ properties.flatMap (fun p => typePackages p.type) ↔
      ∃ q ∈ packageOfType, x = q.2 ∧
        ∃ p ∈ properties, q.1.toList <:+: (typeText p.type).toList := by
  simp only [List.mem_flatMap, mem_typePackages_iff]
  constructor
  · rintro ⟨p, hp, q, hq, rfl, hbase⟩
    exact ⟨q, hq, rfl, p, hp, (infix_typeText_iff hq p.type).2 hbase⟩
  · rintro ⟨q, hq, rfl, p, hp, hin⟩
    exact ⟨p, hp, q, hq, rfl, (infix_typeText_iff hq p.type).1 hin⟩

/-- A struct that has got the fields for a lineage gets no others by it. -/
theorem run_generateStruct_again {path : String} {api : Model} {name : String} {t : TypeDeclaration}
    {d : Draft} (hpackage : ∃ p, d.package = withLineage path api name t p)
    (hnone : (lineage api t).2 = none) :
    ∃ d', (generateStruct path api name t).run d = .ok [] d' ∧ d'.package = d.package := by
  obtain ⟨p, hp⟩ := hpackage
  have hstruct := struct?_withLineage path api name t p
  rw [← hp] at hstruct
  have hthere : (d.package.struct? path name).isSome := by
    rw [hstruct]
    rfl
  have hfields : d.package.fieldsOf path name = p.fieldsOf path name ++
      (addedProperties api t (p.fieldsOf path name)).map propertyField := by
    rw [Package.fieldsOf, hstruct]
    rfl
  have hnew : addedProperties api t (d.package.fieldsOf path name) = [] := by
    rw [hfields, addedProperties_append]
  have hsame : withLineage path api name t d.package = d.package := by
    rw [withLineage, hnew, List.map_nil, Package.withFields_nil, Package.withStruct, if_pos hthere]
  rw [run_generateStruct (.inl hthere), hnone, hnew, hsame]
  exact ⟨_, rfl, rfl⟩

/-- The struct for a declared type is its inheritance laid flat. In an API of different type names,
take a declared type that reaches no cycle. There is an expansion of it. Whatever fields a struct
has, or if there is none and its name is free, the draft of the struct for the type succeeds. The
fields that were there stay in place, and behind them comes a field for each property of the
expansion whose field name is there for the first time, in that order and with the type and the tag
of that property. No other struct changes. The packages that are needed are exactly those of the
types in the new fields. The same draft once more changes nothing. -/
theorem generateStruct_flattens {api : Model} {t : TypeDeclaration}
    (hnames : (api.types.map (·.name)).Nodup) (hmem : t ∈ api.types)
    (hacyclic : ¬ReachesCycle api t) :
    (∃ expand, Expands api t expand) ∧
    ∀ expand, Expands api t expand → ∀ path name d, d.package.CanHaveStruct path name →
      let old := d.package.fieldsOf path name
      let added := firstOccurrences (fun p => exportedName p.name) (old.map (·.name)) (expand t)
      ∃ packages d', (generateStruct path api name t).run d = .ok packages d' ∧
        d'.package.struct? path name = some ⟨name, old ++ added.map fun p =>
          ⟨exportedName p.name, typeText p.type, some (jsonTag p.wireName)⟩⟩ ∧
        (∀ other otherName, (other, otherName) ≠ (path, name) →
          d'.package.struct? other otherName = d.package.struct? other otherName) ∧
        (∀ x, x ∈ packages ↔ ∃ q ∈ packageOfType, x = q.2 ∧
          ∃ p ∈ added, q.1.toList <:+: (typeText p.type).toList) ∧
        ∃ d'', (generateStruct path api name t).run d' = .ok [] d'' ∧ d''.package = d'.package := by
  have ht : Declared api t := declared_of_mem hnames hmem
  have hnone : (lineage api t).2 = none := (lineage_eq_none_iff ht).2 hacyclic
  refine ⟨⟨_, expands_lineage ht hacyclic⟩, ?_⟩
  intro expand hexpand path name d h old added
  have hadded : addedProperties api t old = added := by
    unfold addedProperties newProperties
    rw [newMembers_eq_firstOccurrences, lineage, ← hexpand.eq_of_lineageFrom .refl hnone]
  have hrun : (generateStruct path api name t).run d = _ := run_generateStruct h
  rw [hnone] at hrun
  refine ⟨_, _, hrun, ?_, ?_, ?_, run_generateStruct_again ⟨d.package, rfl⟩ hnone⟩
  · rw [← hadded]
    exact struct?_withLineage path api name t d.package
  · intro other otherName hother
    exact struct?_withLineage_of_ne hother api t d.package
  · intro x
    rw [← hadded]
    exact mem_flatMap_typePackages_iff

/-- A type that inherits from two others, which share an ancestor. -/
def ferretType : TypeDeclaration :=
  ⟨"ferret", ["wild", "tame"], [⟨"seen", ⟨"datetime", false, none, []⟩, "seen"⟩],
    ⟨"wild", true, none, []⟩⟩

/-- The types that a ferret inherits from. -/
def ferretApi : Model :=
  petApi [animalType, ⟨"wild", ["animal"], [⟨"range", ⟨"integer", true, none, []⟩, "range"⟩],
      ⟨"animal", true, none, []⟩⟩,
    ⟨"tame", ["animal"], [⟨"seen", ⟨"string", true, none, []⟩, "seen"⟩],
      ⟨"animal", true, none, []⟩⟩,
    ferretType]

/-- A draft with a struct that has a field already. -/
def ferretDraft : Draft :=
  ⟨petDraft.package.insert "models.go" (.struct ⟨"Ferret", [⟨"Range", "string", none⟩]⟩), []⟩

/-- The field that is there stays, and the property of the type itself comes before those of its
ancestors. -/
theorem generateStruct_flattens_ferret :
    ∃ packages d', (generateStruct "models.go" ferretApi "Ferret" ferretType).run ferretDraft =
        .ok packages d' ∧
      d'.package.struct? "models.go" "Ferret" = some ⟨"Ferret", [⟨"Range", "string", none⟩,
        ⟨"Seen", "*time.Time", some "json:\x22seen\x22"⟩,
        ⟨"Name", "string", some "json:\x22name\x22"⟩]⟩ ∧
      "time" ∈ packages := by
  have hmem : ferretType ∈ ferretApi.types := by decide +kernel
  have hnone : (lineage ferretApi ferretType).2 = none := by
    rw [lineage_eq_upTo]
    decide +kernel
  have hacyclic : ¬ReachesCycle ferretApi ferretType := not_reachesCycle_of_lineageFrom hnone
  have hnames : (ferretApi.types.map (·.name)).Nodup := by decide +kernel
  have hthere : (ferretDraft.package.struct? "models.go" "Ferret").isSome := by decide +kernel
  obtain ⟨-, hall⟩ := generateStruct_flattens hnames hmem hacyclic
  obtain ⟨packages, d', hrun, hstruct, -, hpackages, -⟩ :=
    hall _ (expands_lineage (declared_of_mem hnames hmem) hacyclic) "models.go" "Ferret" ferretDraft
      (.inl hthere)
  refine ⟨packages, d', hrun, ?_, ?_⟩
  · rw [hstruct]
    simp only [lineage_eq_upTo]
    decide +kernel
  · rw [hpackages]
    simp only [lineage_eq_upTo]
    decide +kernel

end RamlClient.Client
