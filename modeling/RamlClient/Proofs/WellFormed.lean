import RamlClient.Proofs.Growth
/-!
# Packages whose registry agrees with their files

The registry and the definitions of the files are kept apart, and every operation has to keep them
in step. `Package.WellFormed` says how they belong together; it is kept by new files, by rows of new
definitions, by reservations and by changes inside a definition.
-/

namespace RamlClient.Go

/-- The registry of a package agrees with its files. -/
structure Package.WellFormed (p : Package) : Prop where
  /-- No two files have one path. -/
  paths_nodup : (p.files.map (·.path)).Nodup
  /-- No two definitions of a file have one name. -/
  names_nodup : ∀ f ∈ p.files, (f.definitions.map Definition.name).Nodup
  /-- The name of a definition refers to it. -/
  entry_of_mem : ∀ f ∈ p.files, ∀ d ∈ f.definitions,
    p.entryOf? d.name = some (.defined (d.site f.path))
  /-- What a name refers to is a definition of that name. -/
  mem_of_entry : ∀ n site, p.entryOf? n = some (.defined site) →
    ∃ f ∈ p.files, ∃ d ∈ f.definitions, site = d.site f.path ∧ d.name = n
  /-- No name is declared and left vacant. -/
  not_vacant : ∀ n, p.entryOf? n ≠ some .vacant

namespace Package.WellFormed

variable {p q : Package}

/-- The package without files is well formed. -/
theorem empty : Package.empty.WellFormed where
  paths_nodup := by simp [Package.empty]
  names_nodup := by simp [Package.empty]
  entry_of_mem := by simp [Package.empty]
  mem_of_entry := by simp [Package.empty, entryOf?]
  not_vacant := by simp [Package.empty, entryOf?]

/-! ### What the registry answers -/

/-- A definition is found at its site. -/
theorem definitionAt?_of_mem (h : p.WellFormed) {f : File} (hf : f ∈ p.files) {d : Definition}
    (hd : d ∈ f.definitions) : p.definitionAt? (d.site f.path) = some d := by
  simp only [definitionAt?, Definition.site, file?_of_mem h.paths_nodup hf, Option.bind_some]
  exact File.definition?_of_mem (h.names_nodup f hf) hd

/-- A definition is found under its name. -/
theorem lookup_of_mem (h : p.WellFormed) {f : File} (hf : f ∈ p.files) {d : Definition}
    (hd : d ∈ f.definitions) : p.lookup d.name = some d := by
  simp only [lookup, h.entry_of_mem f hf d hd]
  exact h.definitionAt?_of_mem hf hd

/-- The definitions of a package are those of its files. -/
theorem mem_definitions {d : Definition} :
    d ∈ p.definitions ↔ ∃ f ∈ p.files, d ∈ f.definitions := List.mem_flatMap

/-- A name refers to the definition of that name, and to nothing else. -/
theorem lookup_eq_some_iff (h : p.WellFormed) {n : String} {d : Definition} :
    p.lookup n = some d ↔ d ∈ p.definitions ∧ d.name = n := by
  constructor
  · intro hlook
    cases he : p.entryOf? n with
    | none => simp [lookup, he] at hlook
    | some e =>
      cases e with
      | reserved => simp [lookup, he] at hlook
      | vacant => simp [lookup, he] at hlook
      | defined site =>
        obtain ⟨f, hf, e, hmem, rfl, rfl⟩ := h.mem_of_entry n site he
        rw [h.lookup_of_mem hf hmem, Option.some.injEq] at hlook
        subst hlook
        exact ⟨mem_definitions.2 ⟨f, hf, hmem⟩, rfl⟩
  · rintro ⟨hmem, rfl⟩
    obtain ⟨f, hf, hd⟩ := mem_definitions.1 hmem
    exact h.lookup_of_mem hf hd

/-- In a well-formed package every declared name is reserved or refers to a definition. -/
theorem grounded (h : p.WellFormed) : p.Grounded := by
  intro n hn
  obtain ⟨e, he⟩ := Option.isSome_iff_exists.1 hn
  cases e with
  | reserved => exact .inl he
  | vacant => exact absurd he (h.not_vacant n)
  | defined site =>
    obtain ⟨f, hf, d, hd, -, rfl⟩ := h.mem_of_entry n site he
    exact .inr (by simp [h.lookup_of_mem hf hd])

/-- What is declared is reserved or the name of a definition. -/
theorem isDeclared_iff (h : p.WellFormed) (n : String) :
    p.isDeclared n ↔ p.entryOf? n = some .reserved ∨ n ∈ p.names := by
  constructor
  · intro hn
    apply (h.grounded n hn).imp_right
    intro hlook
    obtain ⟨d, hd⟩ := Option.isSome_iff_exists.1 hlook
    obtain ⟨hmem, rfl⟩ := h.lookup_eq_some_iff.1 hd
    exact List.mem_map_of_mem hmem
  · rintro (hr | hn)
    · exact isDeclared_of_entryOf? hr
    · obtain ⟨d, hmem, rfl⟩ := List.mem_map.1 hn
      obtain ⟨f, hf, hd⟩ := mem_definitions.1 hmem
      exact isDeclared_of_entryOf? (h.entry_of_mem f hf d hd)

/-- A reserved name is the name of no definition. -/
theorem notMem_names_of_reserved (h : p.WellFormed) {n : String}
    (hn : p.entryOf? n = some .reserved) : n ∉ p.names := by
  intro hmem
  obtain ⟨d, hd, rfl⟩ := List.mem_map.1 hmem
  obtain ⟨f, hf, hd⟩ := mem_definitions.1 hd
  rw [h.entry_of_mem f hf d hd] at hn
  cases hn

/-- A name without definition is undeclared or reserved. -/
theorem lookup_eq_none_iff (h : p.WellFormed) {n : String} :
    p.lookup n = none ↔ p.entryOf? n = none ∨ p.entryOf? n = some .reserved := by
  constructor
  · intro hlook
    cases hn : p.isDeclared n with
    | false => exact .inl (isDeclared_eq_false.1 hn)
    | true => exact .inr ((h.grounded n hn).resolve_right (by simp [hlook]))
  · rintro (he | he) <;> simp [lookup, he]

/-- No name is given twice, in one file or in two: a name that two files share would refer to
definitions at two paths. -/
theorem nodup_names (h : p.WellFormed) : p.names.Nodup := by
  have hnames : p.names = p.files.flatMap fun f => f.definitions.map Definition.name := by
    simp [names, definitions, List.map_flatMap]
  rw [hnames, List.nodup_flatMap]
  refine ⟨h.names_nodup, ?_⟩
  refine List.Pairwise.imp_of_mem ?_ (List.pairwise_map.1 h.paths_nodup)
  intro f g hf hg hne n hn hn'
  obtain ⟨d, hd, rfl⟩ := List.mem_map.1 hn
  obtain ⟨e, he, hname⟩ := List.mem_map.1 hn'
  have hentry := h.entry_of_mem f hf d hd
  rw [← hname, h.entry_of_mem g hg e he] at hentry
  simp only [Option.some.injEq, Entry.defined.injEq, Definition.site, Site.mk.injEq] at hentry
  exact hne hentry.1.symm

/-- A package is ready for new definitions in each of its files. -/
theorem ready (h : p.WellFormed) {path : String} (hfile : (p.file? path).isSome) :
    p.Ready path where
  grounded := h.grounded
  isSome_file? := hfile
  declared := fun f hf d hd => isDeclared_of_entryOf? (h.entry_of_mem f (mem_of_file? hf) d hd)

/-! ### What keeps the agreement -/

/-- A package stays well formed when a file is added. -/
theorem withFile (h : p.WellFormed) (path : String) : (p.withFile path).WellFormed := by
  cases hf : p.file? path with
  | some f => exact (withFile_of_file? hf).symm ▸ h
  | none =>
    have hq : p.withFile path = { p with files := p.files ++ [File.empty path] } := by
      simp [Package.withFile, hf]
    have hmem {f : File} {d : Definition} (hf : f ∈ (p.withFile path).files)
      (hd : d ∈ f.definitions) :
        f ∈ p.files := by
      rw [hq, List.mem_append, List.mem_singleton] at hf
      rcases hf with hf | rfl
      · exact hf
      · simp at hd
    refine ⟨?_, ?_, ?_, ?_, ?_⟩
    · have hnew : path ∉ p.files.map (·.path) := by
        simpa [file?, List.find?_eq_none] using hf
      simp only [hq, List.map_append, List.map_cons, List.map_nil, File.empty]
      exact List.nodup_append.2 ⟨h.paths_nodup, by simp, by
        rintro a ha b hb rfl
        exact hnew (List.mem_singleton.1 hb ▸ ha)⟩
    · intro f hf
      rw [hq, List.mem_append, List.mem_singleton] at hf
      rcases hf with hf | rfl
      · exact h.names_nodup f hf
      · simp
    · intro f hf d hd
      rw [entryOf?_withFile]
      exact h.entry_of_mem f (hmem hf hd) d hd
    · intro n site he
      rw [entryOf?_withFile] at he
      obtain ⟨f, hf, d, hd, hsite, hname⟩ := h.mem_of_entry n site he
      exact ⟨f, by simp [hq, hf], d, hd, hsite, hname⟩
    · intro n
      rw [entryOf?_withFile]
      exact h.not_vacant n

/-- A name without definition can be reserved. -/
theorem withReserved (h : p.WellFormed) {n : String} (hn : p.lookup n = none) :
    (p.withEntry n .reserved).WellFormed where
  paths_nodup := h.paths_nodup
  names_nodup := h.names_nodup
  entry_of_mem := fun f hf d hd => by
    have hne : d.name ≠ n := by
      rintro rfl
      rw [h.lookup_of_mem hf hd] at hn
      cases hn
    rw [entryOf?_withEntry, if_neg hne, h.entry_of_mem f hf d hd]
  mem_of_entry := fun m site he => by
    rw [entryOf?_withEntry] at he
    split at he
    · cases he
    · exact h.mem_of_entry m site he
  not_vacant := fun m => by
    rw [entryOf?_withEntry]
    split
    · simp
    · exact h.not_vacant m

/-- The files after a row of new definitions: the one at the path has them too, and the others are
the old ones. -/
theorem files_of_appends (h : p.WellFormed) {path : String} {xs : List String}
    {ds : List Definition} (hq : Appends path xs ds p q) {g : File} (hg : g ∈ q.files) :
    ∃ f ∈ p.files, f.path = g.path ∧
      (g.path = path ∧ g = (f.addAll ds).addImports xs ∨ g.path ≠ path ∧ g = f) := by
  have hnodup : (q.files.map (·.path)).Nodup := hq.paths ▸ h.paths_nodup
  have hpath : g.path ∈ p.files.map (·.path) := hq.paths ▸ List.mem_map_of_mem hg
  obtain ⟨f, hf, hfg⟩ := List.mem_map.1 hpath
  have hgq := file?_of_mem hnodup hg
  have hfp := hfg ▸ file?_of_mem h.paths_nodup hf
  refine ⟨f, hf, hfg, ?_⟩
  by_cases hgp : g.path = path
  · rw [hgp] at hgq hfp
    rw [hq.file f hfp, Option.some.injEq] at hgq
    exact .inl ⟨hgp, hgq.symm⟩
  · rw [hq.other _ hgp, hfp, Option.some.injEq] at hgq
    exact .inr ⟨hgp, hgq.symm⟩

section Appends

variable {path : String} {xs : List String} {ds : List Definition}

/-- The names of a row of new definitions are those of no old ones. -/
theorem name_notMem_of_appends (h : p.WellFormed) (hq : Appends path xs ds p q) {f : File}
    (hf : f ∈ p.files) {d : Definition} (hd : d ∈ f.definitions) :
    d.name ∉ ds.map Definition.name := by
  intro hmem
  obtain ⟨e, he, hname⟩ := List.mem_map.1 hmem
  have hnone := hq.fresh e he
  rw [hname, h.entry_of_mem f hf d hd] at hnone
  cases hnone

/-- The definitions after an addition, up to their order. -/
theorem perm_definitions_appends (f : File) :
    ((f.addAll ds).addImports xs).definitions.Perm (ds ++ f.definitions) := f.definitions_addAll ds

/-- An old definition stays in its file. -/
theorem exists_file_of_old (h : p.WellFormed) (hq : Appends path xs ds p q) {f : File}
    (hf : f ∈ p.files) {d : Definition} (hd : d ∈ f.definitions) :
    ∃ g ∈ q.files, d ∈ g.definitions ∧ g.path = f.path := by
  have hfp := file?_of_mem h.paths_nodup hf
  by_cases hpath : f.path = path
  · rw [hpath] at hfp
    exact ⟨_, mem_of_file? (hq.file f hfp),
      (perm_definitions_appends f).mem_iff.2 (List.mem_append_right ds hd),
      (path_of_file? (hq.file f hfp)).trans hpath.symm⟩
  · exact ⟨f, mem_of_file? ((hq.other _ hpath).trans hfp), hd, rfl⟩

/-- A new definition stands in the file at the path. -/
theorem exists_file_of_new (hfile : (p.file? path).isSome) (hq : Appends path xs ds p q)
    {d : Definition} (hd : d ∈ ds) : ∃ g ∈ q.files, d ∈ g.definitions ∧ g.path = path := by
  obtain ⟨f, hf⟩ := Option.isSome_iff_exists.1 hfile
  exact ⟨_, mem_of_file? (hq.file f hf), (perm_definitions_appends f).mem_iff.2
    (List.mem_append_left _ hd), path_of_file? (hq.file f hf)⟩

/-- A package stays well formed when definitions are appended to a file that is there. -/
theorem of_appends (h : p.WellFormed) (hfile : (p.file? path).isSome)
    (hq : Appends path xs ds p q) :
    q.WellFormed where
  paths_nodup := hq.paths ▸ h.paths_nodup
  names_nodup := fun g hg => by
    obtain ⟨f, hf, -, ⟨-, rfl⟩ | ⟨-, rfl⟩⟩ := h.files_of_appends hq hg
    · rw [((perm_definitions_appends f).map _).nodup_iff, List.map_append]
      apply hq.nodup.append (h.names_nodup f hf)
      intro n hn hn'
      obtain ⟨d, hd, rfl⟩ := List.mem_map.1 hn'
      exact h.name_notMem_of_appends hq hf hd hn
    · exact h.names_nodup g hf
  entry_of_mem := fun g hg d hd => by
    obtain ⟨f, hf, hfg, ⟨hgp, hgf⟩ | ⟨-, rfl⟩⟩ := h.files_of_appends hq hg
    · rw [hgf, (perm_definitions_appends f).mem_iff, List.mem_append] at hd
      rcases hd with hd | hd
      · rw [hgp]
        exact hq.entry_of_mem d hd
      · rw [hq.entry_of_notMem _ (h.name_notMem_of_appends hq hf hd), h.entry_of_mem f hf d hd, hfg]
    · rw [hq.entry_of_notMem _ (h.name_notMem_of_appends hq hf hd), h.entry_of_mem g hf d hd]
  mem_of_entry := fun n site he => by
    by_cases hmem : n ∈ ds.map Definition.name
    · obtain ⟨d, hd, rfl⟩ := List.mem_map.1 hmem
      rw [hq.entry_of_mem d hd, Option.some.injEq, Entry.defined.injEq] at he
      obtain ⟨g, hg, hdg, hpath⟩ := exists_file_of_new hfile hq hd
      exact ⟨g, hg, d, hdg, by rw [hpath, he], rfl⟩
    · rw [hq.entry_of_notMem n hmem] at he
      obtain ⟨f, hf, d, hd, rfl, rfl⟩ := h.mem_of_entry n site he
      obtain ⟨g, hg, hdg, hpath⟩ := h.exists_file_of_old hq hf hd
      exact ⟨g, hg, d, hdg, by rw [hpath], rfl⟩
  not_vacant := fun n hn => by
    by_cases hmem : n ∈ ds.map Definition.name
    · obtain ⟨d, hd, rfl⟩ := List.mem_map.1 hmem
      rw [hq.entry_of_mem d hd] at hn
      cases hn
    · exact h.not_vacant n (hq.entry_of_notMem n hmem ▸ hn)

/-- The definitions after a row of new ones are the old ones and the new ones. -/
theorem mem_definitions_of_appends (h : p.WellFormed) (hfile : (p.file? path).isSome)
    (hq : Appends path xs ds p q) {d : Definition} : d ∈ q.definitions ↔
    d ∈ p.definitions ∨ d ∈ ds := by
  rw [mem_definitions, mem_definitions]
  constructor
  · rintro ⟨g, hg, hd⟩
    obtain ⟨f, hf, -, ⟨-, rfl⟩ | ⟨-, rfl⟩⟩ := h.files_of_appends hq hg
    · rcases List.mem_append.1 ((perm_definitions_appends f).mem_iff.1 hd) with hd | hd
      · exact .inr hd
      · exact .inl ⟨f, hf, hd⟩
    · exact .inl ⟨g, hf, hd⟩
  · rintro (⟨f, hf, hd⟩ | hd)
    · obtain ⟨g, hg, hdg, -⟩ := h.exists_file_of_old hq hf hd
      exact ⟨g, hg, hdg⟩
    · obtain ⟨g, hg, hdg, -⟩ := exists_file_of_new hfile hq hd
      exact ⟨g, hg, hdg⟩

end Appends

/-- A change inside the definitions of a file that leaves their names and kinds. -/
theorem revise (h : p.WellFormed) (path : String) {change : File → File}
    {revised : Definition → Definition} (hpath : ∀ f, (change f).path = f.path)
    (hdefs : ∀ f, (change f).definitions = f.definitions.map revised)
    (hname : ∀ d, (revised d).name = d.name) (hkind : ∀ d, (revised d).kind = d.kind) :
    (p.updateFile path change).WellFormed := by
  have hsite (d : Definition) (path : String) : (revised d).site path = d.site path := by
    simp [Definition.site, hname, hkind]
  have hfiles {g : File} (hg : g ∈ (p.updateFile path change).files) :
      ∃ f ∈ p.files, f.path = g.path ∧
        (g.definitions = f.definitions ∨ g.definitions = f.definitions.map revised) := by
    obtain ⟨f, hf, rfl⟩ := List.mem_map.1 hg
    refine ⟨f, hf, ?_⟩
    split
    · exact ⟨(hpath f).symm, .inr (hdefs f)⟩
    · exact ⟨rfl, .inl rfl⟩
  refine ⟨paths_updateFile p path hpath ▸ h.paths_nodup, ?_, ?_, ?_, h.not_vacant⟩
  · intro g hg
    obtain ⟨f, hf, -, hd | hd⟩ := hfiles hg <;> rw [hd]
    · exact h.names_nodup f hf
    · simpa [List.map_map, Function.comp_def, hname] using h.names_nodup f hf
  · intro g hg d hd
    obtain ⟨f, hf, hfg, hdef | hdef⟩ := hfiles hg <;> rw [hdef] at hd
    · exact hfg ▸ h.entry_of_mem f hf d hd
    · obtain ⟨e, he, rfl⟩ := List.mem_map.1 hd
      rw [entryOf?_updateFile, hname, hsite, h.entry_of_mem f hf e he, hfg]
  · intro n site he
    obtain ⟨f, hf, d, hd, rfl, rfl⟩ := h.mem_of_entry n site he
    by_cases hfp : f.path = path
    · refine ⟨change f, List.mem_map.2 ⟨f, hf, if_pos hfp⟩, revised d, ?_, ?_, hname d⟩
      · rw [hdefs]
        exact List.mem_map_of_mem hd
      · rw [hpath, hsite]
    · exact ⟨f, List.mem_map.2 ⟨f, hf, if_neg hfp⟩, d, hd, rfl, rfl⟩

end Package.WellFormed

end RamlClient.Go
