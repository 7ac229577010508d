import RamlClient.Proofs.Declarations
/-!
# Structs that grow

A struct can be drafted into a file that has one of its name or has room for one. The fields that it
has stay, and the new ones among the properties of a lineage follow them, as far as the lineage
goes.
-/

namespace RamlClient.Go

/-! ### Structs of a package -/

/-- The struct that is found after one has been changed. -/
theorem File.struct?_updateStruct (f : File) (name other : String) {change : Struct → Struct}
    (hname : ∀ s, (change s).name = s.name) :
    (f.updateStruct name change).struct? other =
      (f.struct? other).map fun s => if other = name then change s else s := by
  have hkey : ((·.name == other) ∘ fun s : Struct => if s.name = name then change s else s) =
      (·.name == other) := by
    funext s
    by_cases hs : s.name = name <;> simp [hs, hname]
  rw [struct?, struct?, updateStruct, List.find?_map, hkey]
  cases hfound : f.structs.find? (·.name == other) with
  | none => rfl
  | some s => simp [show s.name = other by simpa using List.find?_some hfound]

namespace Package

variable {p : Package} {path name : String}

/-- A struct is found in its file. -/
theorem struct?_of_file? {f : File} (hf : p.file? path = some f) (name : String) :
    p.struct? path name = f.struct? name := by
  rw [struct?, hf, Option.bind_some]

/-- A struct that is found has the name. -/
theorem name_of_struct? {s : Struct} (h : p.struct? path name = some s) : s.name = name := by
  obtain ⟨f, -, hs⟩ := Option.bind_eq_some_iff.1 h
  simpa using List.find?_some hs

/-- A file that is asked for has the structs that it had. -/
@[simp] theorem struct?_withFile (p : Package) (path other name : String) :
    (p.withFile path).struct? other name = p.struct? other name := by
  rw [struct?, struct?, file?_withFile]
  split
  · rename_i hother
    subst hother
    cases p.file? other <;> rfl
  · rfl

/-- A package can have a struct of a name in a file: it has one there, or the name is free. -/
def CanHaveStruct (p : Package) (path name : String) : Prop :=
  (p.struct? path name).isSome ∨ p.isFree name (.defined ⟨path, .struct, name⟩) = true

/-- The fields of a struct, and none if it is not there. -/
def fieldsOf (p : Package) (path name : String) : List Field :=
  ((p.struct? path name).map (·.fields)).getD []

/-- A struct that is there has its name and its fields. -/
theorem struct?_eq_some_fieldsOf (h : (p.struct? path name).isSome) :
    p.struct? path name = some ⟨name, p.fieldsOf path name⟩ := by
  obtain ⟨s, hs⟩ := Option.isSome_iff_exists.1 h
  rw [fieldsOf, hs, ← name_of_struct? hs]
  rfl

/-- A struct that is there is not declared again. -/
theorem declareStruct_of_struct? (h : (p.struct? path name).isSome) :
    p.declareStruct path name = .ok p := by
  obtain ⟨s, hs⟩ := Option.isSome_iff_exists.1 h
  obtain ⟨f, hf, hfs⟩ := Option.bind_eq_some_iff.1 hs
  simp [declareStruct, declare, withFile_of_file? hf, hf, File.definition?, hfs]

/-- The package with a struct in a file: the one that is there, or a new one without fields. -/
def withStruct (p : Package) (path name : String) : Package :=
  if (p.struct? path name).isSome then p else (p.withFile path).insert path (.struct ⟨name, []⟩)

/-- A struct that the package can have is declared. -/
theorem declareStruct_eq_ok (h : p.CanHaveStruct path name) :
    p.declareStruct path name = .ok (p.withStruct path name) := by
  by_cases hs : (p.struct? path name).isSome
  · rw [declareStruct_of_struct? hs, withStruct, if_pos hs]
  · obtain ⟨f, hf⟩ := Option.isSome_iff_exists.1 (show ((p.withFile path).file? path).isSome by
      simp [file?_withFile])
    have hnone : f.struct? name = none := by
      rw [← struct?_of_file? hf, struct?_withFile]
      exact Option.not_isSome_iff_eq_none.1 hs
    have hfree : (p.withFile path).isFree name (.defined ⟨path, .struct, name⟩) = true := by
      simpa only [isFree, entryOf?_withFile] using h.resolve_left hs
    have hdeclare : p.declareStruct path name = (p.withFile path).declareStruct path name := by
      simp only [declareStruct, declare, withFile_of_file? hf]
    rw [hdeclare, withStruct, if_neg hs]
    exact (declare_eq_ok_iff hf (by simp [File.definition?, hnone])).2 ⟨hfree, rfl⟩

/-- A struct that is asked for has the fields that it had, or none. -/
theorem struct?_withStruct (p : Package) (path name : String) :
    (p.withStruct path name).struct? path name = some ⟨name, p.fieldsOf path name⟩ := by
  rw [withStruct]
  split
  · rename_i hs
    exact struct?_eq_some_fieldsOf hs
  · rename_i hs
    obtain ⟨f, hf⟩ := Option.isSome_iff_exists.1 (show ((p.withFile path).file? path).isSome by
      simp [file?_withFile])
    have hnone : p.struct? path name = none := Option.not_isSome_iff_eq_none.1 hs
    have hfile : f.struct? name = none := by rw [← struct?_of_file? hf, struct?_withFile, hnone]
    have hadded : (f.add (.struct ⟨name, []⟩)).struct? name = some ⟨name, []⟩ := by
      simp only [File.struct?] at hfile
      simp [File.struct?, File.add, hfile]
    rw [struct?, file?_insert, if_pos rfl, hf, Option.map_some, Option.bind_some, hadded, fieldsOf,
      hnone]
    rfl

/-- No other struct changes with a struct that is asked for. -/
theorem struct?_withStruct_of_ne {other otherName : String}
    (h : (other, otherName) ≠ (path, name)) :
    (p.withStruct path name).struct? other otherName = p.struct? other otherName := by
  unfold withStruct
  split
  · rfl
  · rw [← p.struct?_withFile path other otherName, struct?, struct?, file?_insert]
    split
    · rename_i hpath
      subst hpath
      have hname : name ≠ otherName := fun heq => h (by rw [heq])
      cases (p.withFile other).file? other with
      | none => rfl
      | some f => simp [File.struct?, File.add, List.find?_append, hname]
    · rfl

/-- The package with more fields in one of its structs. -/
def withFields (p : Package) (path name : String) (fields : List Field) : Package :=
  p.updateFile path (·.updateStruct name (Struct.withFields fields))

/-- The struct that is found after fields have been added to it. -/
theorem struct?_withFields (p : Package) (path name : String) (fields : List Field) :
    (p.withFields path name fields).struct? path name =
      (p.struct? path name).map (Struct.withFields fields) := by
  rw [struct?, struct?, withFields, file?_updateFile _ _ (by exact fun _ => rfl), if_pos rfl]
  cases p.file? path with
  | none => rfl
  | some f =>
    have hname (s : Struct) : (s.withFields fields).name = s.name := rfl
    simpa using f.struct?_updateStruct name name hname

/-- Fields that are added to one struct leave the others alone. -/
theorem struct?_withFields_of_ne {other otherName : String} (h : (other, otherName) ≠ (path, name))
    (fields : List Field) :
    (p.withFields path name fields).struct? other otherName = p.struct? other otherName := by
  rw [struct?, struct?, withFields, file?_updateFile _ _ (by exact fun _ => rfl)]
  split
  · rename_i hpath
    subst hpath
    have hname : otherName ≠ name := fun heq => h (by rw [heq])
    cases p.file? other with
    | none => rfl
    | some f =>
      have hkeeps (s : Struct) : (s.withFields fields).name = s.name := rfl
      simpa [hname] using f.struct?_updateStruct name otherName hkeeps
  · rfl

/-- A package that is given no more fields stays as it is. -/
@[simp] theorem withFields_nil (p : Package) (path name : String) :
    p.withFields path name [] = p := by
  simp [withFields, updateFile, File.updateStruct, Struct.withFields]

end Package

end RamlClient.Go

namespace RamlClient.Client

open Api Go

/-! ### Fields for a lineage -/

/-- The properties of a lineage that are new beside the fields of a struct. -/
def addedProperties (api : Model) (t : TypeDeclaration) (fields : List Field) : List Property :=
  newProperties (fields.map (·.name)) ((lineage api t).1.flatMap (·.properties))

/-- No property of a lineage is new once there are fields for the new ones. -/
theorem addedProperties_append (api : Model) (t : TypeDeclaration) (fields : List Field) :
    addedProperties api t (fields ++ (addedProperties api t fields).map propertyField) = [] := by
  rw [List.eq_nil_iff_forall_not_mem]
  intro p hp
  have hmem : p ∈ (lineage api t).1.flatMap (·.properties) := (newMembers_sublist _ _ _).mem hp
  have hnew := (newMembers_names (fun p : Property => exportedName p.name) _ _).2 p hp
  rw [List.map_append, List.mem_append, not_or] at hnew
  obtain hold | hadded := name_mem_newMembers (fun p : Property => exportedName p.name)
    (fields.map (·.name)) hmem
  · exact hnew.1 hold
  · refine hnew.2 ?_
    simpa [addedProperties, newProperties, propertyField, Function.comp_def] using hadded

/-- The package with the fields for a lineage in one of its structs. -/
def withLineage (path : String) (api : Model) (name : String) (t : TypeDeclaration) (p : Package) :
    Package :=
  (p.withStruct path name).withFields path name
    ((addedProperties api t (p.fieldsOf path name)).map propertyField)

/-- The struct has the fields that it had and those for the lineage. -/
theorem struct?_withLineage (path : String) (api : Model) (name : String) (t : TypeDeclaration)
    (p : Package) :
    (withLineage path api name t p).struct? path name = some ⟨name, p.fieldsOf path name ++
      (addedProperties api t (p.fieldsOf path name)).map propertyField⟩ := by
  rw [withLineage, Package.struct?_withFields, Package.struct?_withStruct]
  rfl

/-- All other structs stay as they are. -/
theorem struct?_withLineage_of_ne {path name other otherName : String}
    (h : (other, otherName) ≠ (path, name)) (api : Model) (t : TypeDeclaration) (p : Package) :
    (withLineage path api name t p).struct? other otherName = p.struct? other otherName := by
  rw [withLineage, Package.struct?_withFields_of_ne h, Package.struct?_withStruct_of_ne h]

/-- What becomes of a struct that the package can have: it gets the fields for the lineage, and then
the draft goes on unless the lineage leads back to itself. -/
theorem run_generateStruct {path : String} {api : Model} {name : String} {t : TypeDeclaration}
    {d : Draft} (h : d.package.CanHaveStruct path name) :
    (generateStruct path api name t).run d =
      match (lineage api t).2 with
      | some chain => .error (.error (.model (.inheritanceCycle chain)))
          ⟨withLineage path api name t d.package, d.notes⟩
      | none => .ok ((addedProperties api t (d.package.fieldsOf path name)).flatMap fun p =>
            typePackages p.type)
          ⟨withLineage path api name t d.package, d.notes ++ ["struct " ++ name ++ ": " ++
            toString ((d.package.fieldsOf path name).length +
              (addedProperties api t (d.package.fieldsOf path name)).length) ++ " fields"]⟩ := by
  have hattempt : (Drafting.attempt fun p => p.declareStruct path name).run d =
      .ok () { d with package := d.package.withStruct path name } :=
    Drafting.run_attempt_eq_ok.2 ⟨_, Package.declareStruct_eq_ok h, rfl⟩
  have hfields : (((((d.package.withStruct path name).file? path).getD (File.empty path)).struct?
      name).map (·.fields)).getD [] = d.package.fieldsOf path name := by
    have hs := d.package.struct?_withStruct path name
    obtain ⟨f, hf, hfs⟩ := Option.bind_eq_some_iff.1 hs
    rw [hf, Option.getD_some, hfs]
    rfl
  rw [generateStruct, Steps.run_bind_of_ok hattempt]
  dsimp only
  rw [Steps.run_bind_of_ok (Drafting.run_file path)]
  simp only [hfields]
  rw [Steps.run_bind_of_ok (Drafting.run_change _)]
  cases hcycle : (lineage api t).2 with
  | some chain => rfl
  | none => rfl

/-- A struct is drafted exactly if its lineage does not lead back to itself. -/
theorem exists_run_generateStruct_iff {path : String} {api : Model} {name : String}
    {t : TypeDeclaration} {d : Draft} (h : d.package.CanHaveStruct path name) :
    (∃ packages d', (generateStruct path api name t).run d = .ok packages d') ↔
      (lineage api t).2 = none := by
  rw [run_generateStruct h]
  cases (lineage api t).2 <;> simp

/-- Why a struct that the package can have is not drafted. -/
theorem run_generateStruct_eq_error_iff {path : String} {api : Model} {name : String}
    {t : TypeDeclaration} {d : Draft} (h : d.package.CanHaveStruct path name) {e : Failure} :
    (∃ d', (generateStruct path api name t).run d = .error e d') ↔
      ∃ chain, (lineage api t).2 = some chain ∧ e = .error (.model (.inheritanceCycle chain)) := by
  rw [run_generateStruct h]
  cases (lineage api t).2 <;> simp [eq_comm]

end RamlClient.Client
