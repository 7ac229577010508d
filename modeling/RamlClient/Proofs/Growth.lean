import RamlClient.Proofs.PackageView
/-!
# How a package grows

A definition that is declared anew is put into a file and into the registry at once. What a package
has got by a row of such steps is the list of the new definitions and the imports, `Appends`.
-/

namespace RamlClient.Go

namespace Package

/-! ### Entries of the registry -/

/-- A name is not declared if the registry has nothing under it. -/
theorem isDeclared_eq_false {p : Package} {n : String} : p.isDeclared n = false ↔
    p.entryOf? n = none := by
  simp [isDeclared]

/-- A name is declared if the registry has something under it. -/
theorem isDeclared_of_entryOf? {p : Package} {n : String} {e : Entry} (h : p.entryOf? n = some e) :
    p.isDeclared n = true := by
  simp [isDeclared, h]

/-- A registry with an entry for a name has that entry, and all others as before. -/
theorem find?_setEntry (registry : List (String × Entry)) (name : String) (e : Entry) (n : String) :
    ((setEntry registry name e).find? (·.1 == n)).map (·.2) =
      if n = name then some e else (registry.find? (·.1 == n)).map (·.2) := by
  unfold setEntry
  split
  · rename_i hany
    rw [List.find?_map]
    have hkey : ((·.1 == n) ∘ fun x : String × Entry => if x.1 = name then (name, e) else x) =
        (·.1 == n) := by
      funext x
      by_cases hx : x.1 = name <;> simp [hx]
    rw [hkey]
    by_cases hn : n = name
    · subst hn
      cases hf : registry.find? (·.1 == n) with
      | none =>
        obtain ⟨x, hx, hxn⟩ := List.any_eq_true.1 hany
        exact absurd hxn (List.find?_eq_none.1 hf x hx)
      | some x => simp [show x.1 = n by simpa using List.find?_some hf]
    · cases hf : registry.find? (·.1 == n) with
      | none => simp [hn]
      | some x => simp [hn, show x.1 = n by simpa using List.find?_some hf]
  · rename_i hany
    have hnew : registry.find? (·.1 == name) = none :=
      List.find?_eq_none.2 fun x hx hname => hany (List.any_eq_true.2 ⟨x, hx, hname⟩)
    by_cases hn : n = name
    · simp [hn, hnew]
    · simp [hn, Ne.symm hn]

/-- The package with an entry for a name, whatever was there before. -/
def withEntry (p : Package) (name : String) (e : Entry) : Package :=
  { p with registry := setEntry p.registry name e }

/-- What the registry has under a name after an entry has been made. -/
theorem entryOf?_withEntry (p : Package) (name : String) (e : Entry) (n : String) :
    (p.withEntry name e).entryOf? n = if n = name then some e else p.entryOf? n :=
  find?_setEntry p.registry name e n

/-- A claim makes an entry if the name is free, and fails otherwise. -/
theorem claim_eq (p : Package) (name : String) (e : Entry) :
    p.claim name e =
      if p.isFree name e then .ok (p.withEntry name e) else .error (.duplicateIdentifier name) :=
  rfl

/-! ### New definitions -/

/-- Every declared name is reserved or refers to a definition. -/
def Grounded (p : Package) : Prop :=
  ∀ n, p.isDeclared n → p.entryOf? n = some .reserved ∨ (p.lookup n).isSome

/-- The package with a new definition in a file and in the registry. -/
def insert (p : Package) (path : String) (d : Definition) : Package :=
  (p.withEntry d.name (.defined (d.site path))).updateFile path (·.add d)

/-- A definition that its file does not have is declared exactly if its name is free. -/
theorem declare_eq_ok_iff {p q : Package} {path : String} {f : File} {d : Definition}
    (hf : p.file? path = some f) (hnew : f.definition? d.kind d.name = none) :
    p.declare path d = .ok q ↔
      p.isFree d.name (.defined (d.site path)) = true ∧ q = p.insert path d := by
  simp only [declare, withFile_of_file? hf, hf, Option.any_some, hnew, Option.isSome_none,
    Bool.false_eq_true, if_false, claim_eq]
  split
  · simp [*, insert, bind, Except.bind, pure, Except.pure, eq_comm]
  · simp [*, bind, Except.bind]

/-- In a grounded package, a name can be claimed for a definition that its file does not have
exactly if it is not declared. -/
theorem isFree_eq_of_grounded {p : Package} (hp : p.Grounded) {path : String} {f : File}
    (hf : p.file? path = some f) {d : Definition} (hd : f.definition? d.kind d.name = none) :
    p.isFree d.name (.defined (d.site path)) = !p.isDeclared d.name := by
  cases he : p.entryOf? d.name with
  | none => simp [isFree, isDeclared, he]
  | some e =>
    have hdecl : p.isDeclared d.name = true := isDeclared_of_entryOf? he
    have hground := hp d.name hdecl
    simp only [he, Option.some.injEq] at hground
    rw [hdecl]
    cases e with
    | reserved => simp [isFree, he]
    | vacant => simp [lookup, he] at hground
    | defined site =>
      have hsite : site ≠ d.site path := by
        rintro rfl
        simp [lookup, he, definitionAt?, Definition.site, hf, hd] at hground
      simp [isFree, he, hsite]

/-- What declaring does: nothing if the definition is there, and otherwise it succeeds exactly if
the name is not declared. -/
theorem declare_eq_of_grounded {p : Package} (hp : p.Grounded) {path : String} {f : File}
    (hf : p.file? path = some f) (d : Definition) :
    p.declare path d =
      if (f.definition? d.kind d.name).isSome then .ok p
      else if p.isDeclared d.name then .error (.duplicateIdentifier d.name)
      else .ok (p.insert path d) := by
  simp only [declare, withFile_of_file? hf, hf, Option.any_some]
  split
  · rfl
  · rename_i hnone
    rw [claim_eq, isFree_eq_of_grounded hp hf (by simpa using hnone)]
    cases p.isDeclared d.name <;> rfl

/-- What is found at a path after a definition has been inserted. -/
theorem file?_insert (p : Package) (path : String) (d : Definition) (other : String) :
    (p.insert path d).file? other =
      if other = path then (p.file? other).map (·.add d) else p.file? other :=
  file?_updateFile _ path (fun f => f.path_add d) other

/-- What the registry has under a name after a definition has been inserted. -/
theorem entryOf?_insert (p : Package) (path : String) (d : Definition) (n : String) :
    (p.insert path d).entryOf? n =
      if n = d.name then some (.defined (d.site path)) else p.entryOf? n :=
  entryOf?_withEntry p d.name _ n

end Package

/-! ### Rows of new definitions -/

/-- The second package is the first one with imports and new definitions in the file at a path. -/
structure Appends (path : String) (xs : List String) (ds : List Definition) (p q : Package) :
    Prop where
  /-- The file has the imports and the definitions. -/
  file : ∀ f, p.file? path = some f → q.file? path = some ((f.addAll ds).addImports xs)
  /-- All other files stay as they are. -/
  other : ∀ other, other ≠ path → q.file? other = p.file? other
  /-- There are no more files than before. -/
  paths : q.files.map (·.path) = p.files.map (·.path)
  /-- The names of the new definitions refer to them. -/
  entry_of_mem : ∀ d ∈ ds, q.entryOf? d.name = some (.defined (d.site path))
  /-- All other names are what they were. -/
  entry_of_notMem : ∀ n, n ∉ ds.map Definition.name → q.entryOf? n = p.entryOf? n
  /-- The names of the new definitions were not declared. -/
  fresh : ∀ d ∈ ds, p.entryOf? d.name = none
  /-- No two new definitions have one name. -/
  nodup : (ds.map Definition.name).Nodup
  /-- The files to copy stay as they are. -/
  includes : q.includes = p.includes

namespace Appends

variable {path : String} {xs ys : List String} {ds es : List Definition} {p q r : Package}

/-- Nothing is appended to a package as it is. -/
theorem refl (path : String) (p : Package) : Appends path [] [] p p where
  file := fun f hf => hf
  other := fun _ _ => rfl
  paths := rfl
  entry_of_mem := by simp
  entry_of_notMem := fun _ _ => rfl
  fresh := by simp
  nodup := by simp
  includes := rfl

/-- What is appended in two portions is appended. -/
theorem trans (h : Appends path xs ds p q) (h' : Appends path ys es q r) :
    Appends path (xs ++ ys) (ds ++ es) p r := by
  have hnew (e : Definition) (he : e ∈ es) : e.name ∉ ds.map Definition.name := by
    intro hmem
    obtain ⟨d, hd, hname⟩ := List.mem_map.1 hmem
    have hnone := h'.fresh e he
    rw [← hname, h.entry_of_mem d hd] at hnone
    cases hnone
  refine ⟨?_, ?_, ?_, ?_, ?_, ?_, ?_, h'.includes.trans h.includes⟩
  · intro f hf
    rw [h'.file _ (h.file f hf), File.addAll_addImports, ← File.addAll_append,
      ← File.addImports_append]
  · intro other ho
    rw [h'.other other ho, h.other other ho]
  · rw [h'.paths, h.paths]
  · intro d hd
    rcases List.mem_append.1 hd with hd | hd
    · have hold : d.name ∉ es.map Definition.name := by
        intro hmem
        obtain ⟨e, he, hname⟩ := List.mem_map.1 hmem
        exact hnew e he (hname ▸ List.mem_map_of_mem hd)
      rw [h'.entry_of_notMem _ hold, h.entry_of_mem d hd]
    · exact h'.entry_of_mem d hd
  · intro n hn
    rw [List.map_append, List.mem_append, not_or] at hn
    rw [h'.entry_of_notMem n hn.2, h.entry_of_notMem n hn.1]
  · intro d hd
    rcases List.mem_append.1 hd with hd | hd
    · exact h.fresh d hd
    · rw [← h.entry_of_notMem _ (hnew d hd), h'.fresh d hd]
  · rw [List.map_append]
    apply h.nodup.append h'.nodup
    intro n hn hn'
    obtain ⟨e, he, rfl⟩ := List.mem_map.1 hn'
    exact hnew e he hn

/-- Imports can be appended to a file. -/
theorem imports (path : String) (xs : List String) (p : Package) :
    Appends path xs [] p (p.updateFile path (·.addImports xs)) where
  file := fun f hf => by
    rw [Package.file?_updateFile _ _ (by exact fun _ => rfl), if_pos rfl, hf]
    rfl
  other := fun other ho => by
    rw [Package.file?_updateFile _ _ (by exact fun _ => rfl), if_neg ho]
  paths := Package.paths_updateFile p path fun _ => rfl
  entry_of_mem := by simp
  entry_of_notMem := fun _ _ => rfl
  fresh := by simp
  nodup := by simp
  includes := rfl

/-- A definition with a new name can be appended to a file. -/
theorem insert (path : String) {d : Definition} (hd : p.isDeclared d.name = false) :
    Appends path [] [d] p (p.insert path d) where
  file := fun f hf => by
    rw [Package.file?_insert, if_pos rfl, hf]
    rfl
  other := fun other ho => by simp [Package.file?_insert, ho]
  paths := Package.paths_updateFile _ path fun f => f.path_add d
  entry_of_mem := by simp [Package.entryOf?_insert]
  entry_of_notMem := fun n hn => by
    rw [Package.entryOf?_insert, if_neg (by simpa using hn)]
  fresh := by simpa using Package.isDeclared_eq_false.1 hd
  nodup := by simp
  includes := rfl

/-- The definitions of the file are those that were there and those that are appended. -/
theorem mem_definitions_file (hq : Appends path xs ds p q) {f : File} (hf : p.file? path = some f)
    {d : Definition} : (∃ g, q.file? path = some g ∧ d ∈ g.definitions) ↔
    d ∈ ds ∨ d ∈ f.definitions := by
  simp [hq.file f hf, (f.definitions_addAll ds).mem_iff]

end Appends

/-! ### A file that is ready for new definitions -/

/-- The package is grounded, and has a file at the path whose definitions are declared. -/
structure Package.Ready (p : Package) (path : String) : Prop where
  /-- Every declared name is reserved or refers to a definition. -/
  grounded : p.Grounded
  /-- The file is there. -/
  isSome_file? : (p.file? path).isSome
  /-- The definitions of the file are declared. -/
  declared : ∀ f, p.file? path = some f → ∀ d ∈ f.definitions, p.isDeclared d.name = true

/-- An undeclared name is not the name of a definition in the file. -/
theorem Package.Ready.notMem {p : Package} {path : String} (hp : p.Ready path) {f : File}
    (hf : p.file? path = some f) {n : String} (hn : p.isDeclared n = false) :
    n ∉ f.definitions.map Definition.name := by
  intro hmem
  obtain ⟨d, hd, rfl⟩ := List.mem_map.1 hmem
  rw [hp.declared f hf d hd] at hn
  cases hn

/-- The file has no definition of an undeclared name. -/
theorem Package.Ready.definition?_eq_none {p : Package} {path : String} (hp : p.Ready path)
    {f : File} (hf : p.file? path = some f) {n : String} (hn : p.isDeclared n = false)
    (kind : DefinitionKind) :
    f.definition? kind n = none := by
  apply Option.eq_none_iff_forall_ne_some.2
  intro d hd
  apply hp.notMem hf hn
  obtain ⟨hmem, -, hname⟩ := File.mem_of_definition? hd
  exact List.mem_map.2 ⟨d, hmem, hname⟩

/-- A definition that the file does not have is declared exactly if its name is not. -/
theorem Package.Ready.declare_eq_ok {p q : Package} {path : String} (hp : p.Ready path)
    {d : Definition} (hnew : ∀ f, p.file? path = some f → f.definition? d.kind d.name = none) :
    p.declare path d = .ok q ↔ p.isDeclared d.name = false ∧ q = p.insert path d := by
  obtain ⟨f, hf⟩ := Option.isSome_iff_exists.1 hp.isSome_file?
  rw [declare_eq_of_grounded hp.grounded hf, hnew f hf]
  cases p.isDeclared d.name <;> simp [eq_comm]

/-- A name that is free for a definition that the file does not have is not declared. -/
theorem Package.Ready.isDeclared_of_isFree {p : Package} {path : String} (hp : p.Ready path)
    {f : File} (hf : p.file? path = some f) {d : Definition}
    (hnew : f.definition? d.kind d.name = none)
    (hfree : p.isFree d.name (.defined (d.site path)) = true) : p.isDeclared d.name = false := by
  rwa [isFree_eq_of_grounded hp.grounded hf hnew, Bool.not_eq_true'] at hfree

namespace Appends

variable {path : String} {xs : List String} {ds : List Definition} {p q : Package}

/-- Declared names stay declared. -/
theorem isDeclared (h : Appends path xs ds p q) {n : String} (hn : p.isDeclared n = true) :
    q.isDeclared n = true := by
  by_cases hmem : n ∈ ds.map Definition.name
  · obtain ⟨d, hd, rfl⟩ := List.mem_map.1 hmem
    exact Package.isDeclared_of_entryOf? (h.entry_of_mem d hd)
  · rwa [Package.isDeclared, h.entry_of_notMem n hmem]

/-- A package stays grounded when definitions are appended to a file that is there. -/
theorem grounded (h : Appends path xs ds p q) (hp : p.Grounded) (hfile : (p.file? path).isSome) :
    q.Grounded := by
  obtain ⟨f, hf⟩ := Option.isSome_iff_exists.1 hfile
  have hdefs : ((f.addAll ds).addImports xs).definitions.Perm (ds ++ f.definitions) :=
    f.definitions_addAll ds
  intro n hn
  by_cases hmem : n ∈ ds.map Definition.name
  · obtain ⟨d, hd, rfl⟩ := List.mem_map.1 hmem
    right
    simp only [Package.lookup, h.entry_of_mem d hd, Package.definitionAt?, Definition.site,
      h.file f hf, Option.bind_some]
    exact File.isSome_definition?_of_mem (hdefs.mem_iff.2 (by simp [hd]))
  · rw [Package.isDeclared, h.entry_of_notMem n hmem] at hn
    rw [h.entry_of_notMem n hmem]
    apply (hp n hn).imp_right
    intro hlook
    simp only [Package.lookup, h.entry_of_notMem n hmem] at hlook ⊢
    split at hlook
    · rename_i site _
      simp only [Package.definitionAt?] at hlook ⊢
      by_cases hsite : site.file = path
      · rw [hsite, hf, Option.bind_some] at hlook
        rw [hsite, h.file f hf, Option.bind_some]
        exact File.isSome_definition?_mono (fun d hd => hdefs.mem_iff.2 (by simp [hd])) hlook
      · rwa [h.other _ hsite]
    · cases hlook

/-- A file stays ready when definitions are appended to it. -/
theorem ready (h : Appends path xs ds p q) (hp : p.Ready path) : q.Ready path where
  grounded := h.grounded hp.grounded hp.isSome_file?
  isSome_file? := by
    obtain ⟨f, hf⟩ := Option.isSome_iff_exists.1 hp.isSome_file?
    simp [h.file f hf]
  declared := fun g hg d hd => by
    obtain ⟨f, hf⟩ := Option.isSome_iff_exists.1 hp.isSome_file?
    rcases (h.mem_definitions_file hf).1 ⟨g, hg, hd⟩ with hd | hd
    · exact Package.isDeclared_of_entryOf? (h.entry_of_mem d hd)
    · exact h.isDeclared (hp.declared f hf d hd)

/-- A change inside one of the new definitions that leaves names and kinds. -/
theorem revise (h : Appends path xs ds p q) {change : File → File}
    {revised : Definition → Definition} (hpath : ∀ f, (change f).path = f.path)
    (hfile : ∀ f, p.file? path = some f →
      change ((f.addAll ds).addImports xs) = (f.addAll (ds.map revised)).addImports xs)
    (hname : ∀ d, (revised d).name = d.name) (hkind : ∀ d, (revised d).kind = d.kind) :
    Appends path xs (ds.map revised) p (q.updateFile path change) := by
  have hnames : (ds.map revised).map Definition.name = ds.map Definition.name := by
    simp [List.map_map, Function.comp_def, hname]
  refine ⟨?_, ?_, ?_, ?_, ?_, ?_, ?_, h.includes⟩
  · intro f hf
    rw [Package.file?_updateFile q path hpath, if_pos rfl, h.file f hf, Option.map_some, hfile f hf]
  · intro other ho
    rw [Package.file?_updateFile q path hpath, if_neg ho, h.other other ho]
  · rw [Package.paths_updateFile q path hpath, h.paths]
  · intro d hd
    obtain ⟨e, he, rfl⟩ := List.mem_map.1 hd
    rw [Package.entryOf?_updateFile, hname, h.entry_of_mem e he]
    simp [Definition.site, hname, hkind]
  · intro n hn
    rw [hnames] at hn
    rw [Package.entryOf?_updateFile, h.entry_of_notMem n hn]
  · intro d hd
    obtain ⟨e, he, rfl⟩ := List.mem_map.1 hd
    rw [hname, h.fresh e he]
  · rw [hnames]
    exact h.nodup

/-- A change of the struct of a name that was not declared. -/
theorem updateStruct (h : Appends path xs ds p q) (hp : p.Ready path) {name : String}
    (hnew : p.isDeclared name = false) (change : Struct → Struct)
    (hname : ∀ s, (change s).name = s.name) :
    Appends path xs (ds.map (Definition.onStruct name change)) p
      (q.updateFile path (·.updateStruct name change)) := by
  refine h.revise (fun _ => rfl) (fun f hf => ?_) (Definition.name_onStruct name hname)
    (Definition.kind_onStruct name change)
  have hadd := f.updateStruct_addAll ds name change
  rw [File.updateStruct_of_notMem (hp.notMem hf hnew)] at hadd
  exact congrArg (·.addImports xs) hadd

/-- A change of the function of a name that was not declared. -/
theorem updateFunc (h : Appends path xs ds p q) (hp : p.Ready path) {name : String}
    (hnew : p.isDeclared name = false) (change : Func → Func)
    (hname : ∀ g, (change g).name = g.name) :
    Appends path xs (ds.map (Definition.onFunc name change)) p
      (q.updateFunc path name change) := by
  refine h.revise (fun _ => rfl) (fun f hf => ?_) (Definition.name_onFunc name hname)
    (Definition.kind_onFunc name change)
  have hadd := f.updateFunc_addAll ds name change
  rw [File.updateFunc_of_notMem (hp.notMem hf hnew)] at hadd
  exact congrArg (·.addImports xs) hadd

end Appends

/-- The struct with more fields. -/
def Struct.withFields (fields : List Field) (s : Struct) : Struct :=
  { s with fields := s.fields ++ fields }

/-- A new struct that is given its fields at once. -/
theorem Package.Ready.appends_struct {p : Package} {path name : String} (hp : p.Ready path)
    (hnew : p.isDeclared name = false) (fields : List Field) :
    Appends path [] [.struct ⟨name, fields⟩] p
      ((p.insert path (.struct ⟨name, []⟩)).updateFile path
        (·.updateStruct name (Struct.withFields fields))) := by
  have hfull :
    [Definition.struct ⟨name, []⟩].map (Definition.onStruct name (Struct.withFields fields)) =
      [.struct ⟨name, fields⟩] := by
    simp [Definition.onStruct, Struct.withFields]
  have hname (s : Struct) : (s.withFields fields).name = s.name := rfl
  exact hfull ▸ (Appends.insert path hnew).updateStruct hp hnew _ hname

end RamlClient.Go
