import Mathlib.Data.List.Nodup
import RamlClient.Go.Package
/-!
# What a package holds

The files of a package are seen through the definitions in them, and the registry through the entry
of each name. Each operation on packages is described by what it does to these two views.
-/

namespace RamlClient.Go

namespace Definition

/-- A type definition has the name of its definition. -/
@[simp] theorem name_typeDef (d : TypeDef) : (typeDef d).name = d.name := rfl

/-- A struct has the name of its definition. -/
@[simp] theorem name_struct (d : Struct) : (struct d).name = d.name := rfl

/-- A function has the name of its definition. -/
@[simp] theorem name_func (d : Func) : (func d).name = d.name := rfl

/-- The kind of a type definition. -/
@[simp] theorem kind_typeDef (d : TypeDef) : (typeDef d).kind = .typeDef := rfl

/-- The kind of a struct. -/
@[simp] theorem kind_struct (d : Struct) : (struct d).kind = .struct := rfl

/-- The kind of a function. -/
@[simp] theorem kind_func (d : Func) : (func d).kind = .func := rfl

/-- Changes the struct of a name, and no other definition. -/
def onStruct (name : String) (change : Struct → Struct) : Definition → Definition
  | .struct s => .struct (if s.name = name then change s else s)
  | d => d

/-- Changes the function of a name, and no other definition. -/
def onFunc (name : String) (change : Func → Func) : Definition → Definition
  | .func g => .func (if g.name = name then change g else g)
  | d => d

/-- A change to a struct keeps the kind of the definition. -/
theorem kind_onStruct (name : String) (change : Struct → Struct) (d : Definition) :
    (d.onStruct name change).kind = d.kind := by
  cases d <;> rfl

/-- A change to a function keeps the kind of the definition. -/
theorem kind_onFunc (name : String) (change : Func → Func) (d : Definition) :
    (d.onFunc name change).kind = d.kind := by
  cases d <;> rfl

/-- A change that keeps the names of structs keeps the name of the definition. -/
theorem name_onStruct (name : String) {change : Struct → Struct}
    (hname : ∀ s, (change s).name = s.name) (d : Definition) :
    (d.onStruct name change).name = d.name := by
  cases d with
  | struct s => by_cases h : s.name = name <;> simp [onStruct, h, hname]
  | typeDef _ => rfl
  | func _ => rfl

/-- A change that keeps the names of functions keeps the name of the definition. -/
theorem name_onFunc (name : String) {change : Func → Func}
    (hname : ∀ g, (change g).name = g.name) (d : Definition) :
    (d.onFunc name change).name = d.name := by
  cases d with
  | func g => by_cases h : g.name = name <;> simp [onFunc, h, hname]
  | typeDef _ => rfl
  | struct _ => rfl

/-- The function that a definition is. -/
def func? : Definition → Option Func
  | .func g => some g
  | _ => none

/-- The function of a definition is the definition itself. -/
theorem func?_eq_some_iff {d : Definition} {g : Func} : d.func? = some g ↔ d = .func g := by
  cases d <;> simp [func?]

/-- The struct that a definition is. -/
def struct? : Definition → Option Struct
  | .struct s => some s
  | _ => none

/-- The struct of a definition is the definition itself. -/
theorem struct?_eq_some_iff {d : Definition} {s : Struct} : d.struct? = some s ↔ d = .struct s := by
  cases d <;> simp [struct?]

/-- The type definition that a definition is. -/
def typeDef? : Definition → Option TypeDef
  | .typeDef t => some t
  | _ => none

/-- The type definition of a definition is the definition itself. -/
theorem typeDef?_eq_some_iff {d : Definition} {t : TypeDef} : d.typeDef? = some t ↔
    d = .typeDef t := by
  cases d <;> simp [typeDef?]

/-- What definitions of one kind are has their names. -/
theorem names_filterMap_sublist {α : Type} {pick : Definition → Option α} {nameOf : α → String}
    (h : ∀ d a, pick d = some a → nameOf a = d.name) (ds : List Definition) :
    ((ds.filterMap pick).map nameOf).Sublist (ds.map name) := by
  induction ds with
  | nil => exact .slnil
  | cons d r ih =>
    cases hd : pick d with
    | none =>
      rw [List.filterMap_cons_none hd]
      exact ih.cons d.name
    | some a =>
      rw [List.filterMap_cons_some hd, List.map_cons, List.map_cons, h d a hd]
      exact ih.cons_cons d.name

/-- The functions among definitions have their names. -/
theorem names_funcs_sublist (ds : List Definition) :
    ((ds.filterMap func?).map (·.name)).Sublist (ds.map name) :=
  names_filterMap_sublist (fun d g hd => by rw [func?_eq_some_iff.1 hd, name_func]) ds

end Definition

/-! ### Definitions of a file -/

namespace File

/-- The definitions of a file: type definitions, structs, functions. -/
def definitions (f : File) : List Definition :=
  f.typeDefs.map .typeDef ++ f.structs.map .struct ++ f.funcs.map .func

/-- The file with definitions added one after another. -/
def addAll (f : File) (ds : List Definition) : File := ds.foldl add f

/-- A file keeps its path when a definition is added. -/
@[simp] theorem path_add (f : File) (d : Definition) : (f.add d).path = f.path := by
  cases d <;> rfl

/-- Adding no definitions changes nothing. -/
@[simp] theorem addAll_nil (f : File) : f.addAll [] = f := rfl

/-- Definitions can be added in two portions. -/
theorem addAll_append (f : File) (ds es : List Definition) :
    f.addAll (ds ++ es) = (f.addAll ds).addAll es := List.foldl_append

/-- Imports can be added in two portions. -/
theorem addImports_append (f : File) (xs ys : List String) :
    f.addImports (xs ++ ys) = (f.addImports xs).addImports ys := by
  simp [addImports, List.foldl_append]

/-- Imports and definitions are added to a file independently of each other. -/
theorem addAll_addImports (f : File) (xs : List String) (ds : List Definition) :
    (f.addImports xs).addAll ds = (f.addAll ds).addImports xs := by
  induction ds generalizing f with
  | nil => rfl
  | cons d r ih =>
    have hd : (f.addImports xs).add d = (f.add d).addImports xs := by cases d <;> rfl
    exact (congrArg (·.addAll r) hd).trans (ih (f.add d))

/-- Adding definitions changes no imports. -/
theorem imports_addAll (f : File) (ds : List Definition) : (f.addAll ds).imports = f.imports := by
  induction ds generalizing f with
  | nil => rfl
  | cons d r ih => exact (ih (f.add d)).trans (by cases d <;> rfl)

/-- Imports are no definitions. -/
@[simp] theorem definitions_addImports (f : File) (xs : List String) :
    (f.addImports xs).definitions = f.definitions := rfl

/-- A struct is found among the definitions if the file has it. -/
@[simp] theorem isSome_definition?_struct (f : File) (name : String) :
    (f.definition? .struct name).isSome = f.hasStruct name := by
  simp [definition?, hasStruct]

/-- A struct is missing among the definitions if the file does not have it. -/
theorem definition?_struct_eq_none {f : File} {name : String} :
    f.definition? .struct name = none ↔ f.hasStruct name = false := by
  rw [← isSome_definition?_struct, Option.isSome_eq_false_iff, Option.isNone_iff_eq_none]

/-- The names of the structs and type definitions of a file. -/
def typeNames (f : File) : List String := f.structs.map (·.name) ++ f.typeDefs.map (·.name)

/-- The names of types are those of the structs and of the type definitions. -/
theorem hasStruct_or_hasTypeDef {f : File} {name : String} :
    (f.hasStruct name || f.hasTypeDef name) = true ↔ name ∈ f.typeNames := by
  simp [hasStruct, struct?, hasTypeDef, typeDef?, typeNames, List.find?_isSome]

/-- A name is new if neither a struct nor a type definition has it. -/
theorem notMem_typeNames {f : File} {name : String} :
    name ∉ f.typeNames ↔ f.struct? name = none ∧ f.typeDef? name = none := by
  rw [← hasStruct_or_hasTypeDef]
  simp [hasStruct, hasTypeDef]

/-- A type with a new name is not among the definitions. -/
theorem definition?_eq_none_of_notMem {f : File} {d : Definition} (hkind : d.kind ≠ .func)
    (hnew : d.name ∉ f.typeNames) : f.definition? d.kind d.name = none := by
  obtain ⟨hstruct, htypeDef⟩ := notMem_typeNames.1 hnew
  cases d with
  | typeDef d => simpa [definition?] using htypeDef
  | struct d => simpa [definition?] using hstruct
  | func d => exact absurd rfl hkind

/-- The names of types after a definition is added: its own is new unless it is a function. -/
theorem mem_typeNames_add {f : File} {d : Definition} {name : String} :
    name ∈ (f.add d).typeNames ↔ name ∈ f.typeNames ∨ (d.kind ≠ .func ∧ name = d.name) := by
  cases d with
  | typeDef d => simp [add, typeNames, or_assoc, eq_comm]
  | struct d => simp [add, typeNames, or_comm, or_left_comm, eq_comm]
  | func d => simp [add, typeNames]

/-- The new definition stands among those of its kind, so the definitions are the old ones and the
new one up to their order. -/
theorem definitions_add (f : File) (d : Definition) :
    (f.add d).definitions.Perm (d :: f.definitions) := by
  have hmiddle (xs ys zs : List Definition) :
    (xs ++ (ys ++ d :: zs)).Perm (d :: (xs ++ (ys ++ zs))) :=
    (List.perm_middle.append_left xs).trans List.perm_middle
  cases d with
  | typeDef d => simp [add, definitions]
  | struct d => simpa [add, definitions] using hmiddle _ (f.structs.map .struct) _
  | func d =>
    have hlast := hmiddle (f.typeDefs.map .typeDef) (f.structs.map .struct ++ f.funcs.map .func) []
    simpa [add, definitions] using hlast

/-- The definitions after some are added, up to their order. -/
theorem definitions_addAll (f : File) (ds : List Definition) :
    (f.addAll ds).definitions.Perm (ds ++ f.definitions) := by
  induction ds generalizing f with
  | nil => exact .refl _
  | cons d r ih =>
    have hd : (r ++ (f.add d).definitions).Perm (r ++ d :: f.definitions) :=
      (definitions_add f d).append_left r
    exact (ih (f.add d)).trans (hd.trans List.perm_middle)

/-- What shows some of the definitions of a file shows those that are added behind the others. -/
theorem view_addAll {α : Type} (view : File → List α) {pick : Definition → Option α}
    (hadd : ∀ f d, view (f.add d) = view f ++ (pick d).toList) (f : File) (ds : List Definition) :
    view (f.addAll ds) = view f ++ ds.filterMap pick := by
  induction ds generalizing f with
  | nil => exact (List.append_nil _).symm
  | cons d r ih =>
    rw [show f.addAll (d :: r) = (f.add d).addAll r from rfl, ih, hadd, List.append_assoc,
      List.filterMap_cons]
    cases pick d with
    | none => rfl
    | some a => rfl

/-- The functions among added definitions stand after those that were there. -/
theorem funcs_addAll (f : File) (ds : List Definition) :
    (f.addAll ds).funcs = f.funcs ++ ds.filterMap Definition.func? :=
  view_addAll File.funcs (fun f d => by cases d <;> simp [add, Definition.func?]) f ds

/-- The structs among added definitions stand after those that were there. -/
theorem structs_addAll (f : File) (ds : List Definition) :
    (f.addAll ds).structs = f.structs ++ ds.filterMap Definition.struct? :=
  view_addAll File.structs (fun f d => by cases d <;> simp [add, Definition.struct?]) f ds

/-- The type definitions among added definitions stand after those that were there. -/
theorem typeDefs_addAll (f : File) (ds : List Definition) :
    (f.addAll ds).typeDefs = f.typeDefs ++ ds.filterMap Definition.typeDef? :=
  view_addAll File.typeDefs (fun f d => by cases d <;> simp [add, Definition.typeDef?]) f ds

/-- An empty file has no definitions. -/
@[simp] theorem definitions_empty (path : String) : (empty path).definitions = [] := rfl

/-- A change to the struct of a name changes the definitions one by one. -/
theorem definitions_updateStruct (f : File) (name : String) (change : Struct → Struct) :
    (f.updateStruct name change).definitions =
      f.definitions.map (Definition.onStruct name change) := by
  simp [definitions, updateStruct, Definition.onStruct, Function.comp_def]

/-- A change of a struct reaches the structs that have been added. -/
theorem updateStruct_addAll (f : File) (ds : List Definition) (name : String)
    (change : Struct → Struct) :
    (f.addAll ds).updateStruct name change =
      (f.updateStruct name change).addAll (ds.map (Definition.onStruct name change)) := by
  induction ds generalizing f with
  | nil => rfl
  | cons d r ih =>
    have hd : (f.add d).updateStruct name change =
        (f.updateStruct name change).add (d.onStruct name change) := by
      cases d <;> simp [add, updateStruct, Definition.onStruct]
    have hr := ih (f.add d)
    rw [hd] at hr
    exact hr

/-- A change of a function reaches the functions that have been added. -/
theorem updateFunc_addAll (f : File) (ds : List Definition) (name : String) (change : Func → Func) :
    (f.addAll ds).updateFunc name change =
      (f.updateFunc name change).addAll (ds.map (Definition.onFunc name change)) := by
  induction ds generalizing f with
  | nil => rfl
  | cons d r ih =>
    have hd : (f.add d).updateFunc name change =
        (f.updateFunc name change).add (d.onFunc name change) := by
      cases d <;> simp [add, updateFunc, Definition.onFunc]
    have hr := ih (f.add d)
    rw [hd] at hr
    exact hr

/-- No struct changes if none has the name. -/
theorem updateStruct_of_notMem {f : File} {name : String}
    (h : name ∉ f.definitions.map Definition.name) (change : Struct → Struct) :
    f.updateStruct name change = f := by
  have hid (s : Struct) (hs : s ∈ f.structs) : (if s.name = name then change s else s) = s :=
    if_neg fun hname => h (List.mem_map.2 ⟨.struct s, by simp [definitions, hs], hname⟩)
  simp [updateStruct, List.map_congr_left hid]

/-- No function changes if none has the name. -/
theorem updateFunc_of_notMem {f : File} {name : String}
    (h : name ∉ f.definitions.map Definition.name) (change : Func → Func) :
    f.updateFunc name change = f := by
  have hid (g : Func) (hg : g ∈ f.funcs) : (if g.name = name then change g else g) = g :=
    if_neg fun hname => h (List.mem_map.2 ⟨.func g, by simp [definitions, hg], hname⟩)
  simp [updateFunc, List.map_congr_left hid]

/-- A definition that is found has the kind and the name that were asked for. -/
theorem mem_of_definition? {f : File} {kind : DefinitionKind} {name : String} {d : Definition}
    (h : f.definition? kind name = some d) : d ∈ f.definitions ∧ d.kind = kind ∧ d.name = name := by
  cases kind <;> simp only [definition?, Option.map_eq_some_iff] at h <;> obtain ⟨e, he, rfl⟩ := h
  · exact ⟨by simp [definitions, List.mem_of_find?_eq_some he], rfl,
      by simpa using List.find?_some he⟩
  · exact ⟨by simp [definitions, List.mem_of_find?_eq_some he], rfl,
      by simpa using List.find?_some he⟩
  · exact ⟨by simp [definitions, List.mem_of_find?_eq_some he], rfl,
      by simpa using List.find?_some he⟩

/-- Every definition of a file answers to its kind and name, though perhaps with another one. -/
theorem isSome_definition?_of_mem {f : File} {d : Definition} (h : d ∈ f.definitions) :
    (f.definition? d.kind d.name).isSome := by
  simp only [definitions, List.mem_append, List.mem_map] at h
  obtain (⟨e, he, rfl⟩ | ⟨e, he, rfl⟩) | ⟨e, he, rfl⟩ := h <;>
    simpa [definition?, typeDef?, struct?, func?] using ⟨e, he, rfl⟩

/-- What a file answers to is answered to by every file with its definitions. -/
theorem isSome_definition?_mono {f g : File} (h : ∀ d ∈ f.definitions, d ∈ g.definitions)
    {kind : DefinitionKind} {name : String} (hf : (f.definition? kind name).isSome) :
    (g.definition? kind name).isSome := by
  obtain ⟨d, hd⟩ := Option.isSome_iff_exists.1 hf
  obtain ⟨hmem, rfl, rfl⟩ := mem_of_definition? hd
  exact isSome_definition?_of_mem (h d hmem)

/-- In a file that has no name twice, a definition is found under its kind and name. -/
theorem definition?_of_mem {f : File} (hnodup : (f.definitions.map Definition.name).Nodup)
    {d : Definition} (h : d ∈ f.definitions) : f.definition? d.kind d.name = some d := by
  obtain ⟨e, he⟩ := Option.isSome_iff_exists.1 (isSome_definition?_of_mem h)
  obtain ⟨hmem, -, hname⟩ := mem_of_definition? he
  rw [he, List.inj_on_of_nodup_map hnodup hmem h hname]

end File

/-! ### Files of a package -/

namespace Package

/-- The definitions of all files. -/
def definitions (p : Package) : List Definition := p.files.flatMap File.definitions

/-- The names of all definitions. -/
def names (p : Package) : List String := p.definitions.map Definition.name

/-- A file that is found at a path has this path. -/
theorem path_of_file? {p : Package} {path : String} {f : File} (h : p.file? path = some f) :
    f.path = path := by
  simpa using List.find?_some h

/-- A file that is found is one of the package. -/
theorem mem_of_file? {p : Package} {path : String} {f : File} (h : p.file? path = some f) :
    f ∈ p.files := List.mem_of_find?_eq_some h

/-- In a package that has no path twice, a file is found under its path. -/
theorem file?_of_mem {p : Package} (hnodup : (p.files.map (·.path)).Nodup) {f : File}
    (h : f ∈ p.files) : p.file? f.path = some f := by
  cases hf : p.file? f.path with
  | none =>
    have := List.find?_eq_none.1 hf f h
    simp at this
  | some g => rw [List.inj_on_of_nodup_map hnodup (mem_of_file? hf) h (path_of_file? hf)]

/-- What is found at a path after the file at some path has changed. -/
theorem file?_updateFile (p : Package) (path : String) {change : File → File}
    (hpath : ∀ f, (change f).path = f.path) (other : String) :
    (p.updateFile path change).file? other =
      if other = path then (p.file? other).map change else p.file? other := by
  have hkeep (f : File) : (if f.path = path then change f else f).path = f.path := by
    split <;> simp [hpath]
  have hfind : (p.updateFile path change).file? other =
      (p.file? other).map fun f => if f.path = path then change f else f := by
    simp only [updateFile, file?, List.find?_map]
    congr 2
    funext f
    simp [hkeep]
  rw [hfind]
  cases hf : p.file? other with
  | none => simp
  | some f =>
    have := path_of_file? hf
    by_cases h : other = path <;> simp [h, this]

/-- A change to a file keeps the paths of the package. -/
theorem paths_updateFile (p : Package) (path : String) {change : File → File}
    (hpath : ∀ f, (change f).path = f.path) :
    (p.updateFile path change).files.map (·.path) = p.files.map (·.path) := by
  simp only [updateFile, List.map_map]
  apply List.map_congr_left
  intro f _
  simp only [Function.comp_apply]
  split <;> simp [hpath]

/-- A change to a file keeps the registry. -/
@[simp] theorem entryOf?_updateFile (p : Package) (path : String) (change : File → File)
    (n : String) :
    (p.updateFile path change).entryOf? n = p.entryOf? n := rfl

/-- A new file keeps the registry. -/
@[simp] theorem registry_withFile (p : Package) (path : String) :
    (p.withFile path).registry = p.registry := by
  unfold withFile
  split <;> rfl

/-- A new file keeps what the registry has under a name. -/
@[simp] theorem entryOf?_withFile (p : Package) (path n : String) :
    (p.withFile path).entryOf? n = p.entryOf? n := by
  simp [entryOf?]

/-- A file that is there already is not added again. -/
theorem withFile_of_file? {p : Package} {path : String} {f : File} (h : p.file? path = some f) :
    p.withFile path = p := by
  simp [withFile, h]

/-- What is found at a path after a file has been added at some path. -/
theorem file?_withFile (p : Package) (path other : String) :
    (p.withFile path).file? other =
      if other = path then some ((p.file? path).getD (File.empty path)) else p.file? other := by
  unfold withFile
  cases hf : p.file? path with
  | some f => by_cases h : other = path <;> simp [h, hf]
  | none =>
    by_cases h : other = path
    · subst h
      simp only [file?] at hf
      simp [file?, hf, File.empty]
    · simp [file?, h, Ne.symm h, File.empty]

/-- A new file keeps the files that are copied. -/
@[simp] theorem includes_withFile (p : Package) (path : String) :
    (p.withFile path).includes = p.includes := by
  unfold withFile
  split <;> rfl

/-- A new file is the last one. -/
theorem paths_withFile {p : Package} {path : String} (h : p.file? path = none) :
    (p.withFile path).files.map (·.path) = p.files.map (·.path) ++ [path] := by
  simp [withFile, h, File.empty]

/-- A new file is empty. -/
@[simp] theorem definitions_withFile (p : Package) (path : String) :
    (p.withFile path).definitions = p.definitions := by
  unfold withFile
  split <;> simp [definitions]

end Package

end RamlClient.Go
