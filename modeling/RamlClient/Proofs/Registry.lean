import Mathlib.Data.List.TakeWhile
import RamlClient.Proofs.WellFormed
/-!
# Runs of builder steps

A package is built by asking for files and definitions, adding fields and reserving names, in any
order and with any names; a step may fail and the run goes on. The registry agrees with the files
after every run, what is declared once stays, and a step that fails leaves no trace.
-/

namespace RamlClient.Go

/-- A step of building a package. -/
inductive Step where
  /-- Asks for a file. -/
  | file (path : String)
  /-- Asks for a type definition in a file. -/
  | typeDef (path name type : String)
  /-- Asks for a struct in a file. -/
  | struct (path name : String)
  /-- Asks for a function in a file. -/
  | func (path name : String)
  /-- Adds a field to a struct of a file. -/
  | addField (path name : String) (field : Field)
  /-- Reserves names. -/
  | reserve (names : List String)

/-- A package after a change that may fail, and the outcome. -/
def Package.attempt (p : Package) (change : Package → Except Error Package) :
    Package × Except Error Unit :=
  match change p with
  | .ok q => (q, .ok ())
  | .error e => (p, .error e)

namespace Step

/-- The package after a step, and the outcome of the step. A definition is asked for in a file that
is there. -/
def run (p : Package) : Step → Package × Except Error Unit
  | .file path => (p.withFile path, .ok ())
  | .typeDef path name type => (p.withFile path).attempt (·.declareTypeDef path name type)
  | .struct path name => (p.withFile path).attempt (·.declareStruct path name)
  | .func path name => (p.withFile path).attempt (·.declareFunc path name)
  | .addField path name field => (p.addField path name field, .ok ())
  | .reserve names => p.reserve names

/-- The definition that a step asks for, as it is if it is new, and the path of its file. -/
def request? : Step → Option (String × Definition)
  | .typeDef path name type => some (path, .typeDef ⟨name, type⟩)
  | .struct path name => some (path, .struct ⟨name, []⟩)
  | .func path name => some (path, .func ⟨name, none, [], [], []⟩)
  | _ => none

/-- The fields that a step adds to the definition at a site. -/
def fieldsFor (site : Site) : Step → List Field
  | .addField path name field => if site = ⟨path, .struct, name⟩ then [field] else []
  | _ => []

end Step

/-- A definition with more fields, if it is a struct. -/
def Definition.withFields (fields : List Field) : Definition → Definition
  | .struct s => .struct { s with fields := s.fields ++ fields }
  | d => d

namespace Definition

/-- Adding no fields changes nothing. -/
@[simp] theorem withFields_nil (d : Definition) : d.withFields [] = d := by
  cases d <;> simp [withFields]

/-- Fields can be added in two portions. -/
theorem withFields_append (d : Definition) (xs ys : List Field) :
    d.withFields (xs ++ ys) = (d.withFields xs).withFields ys := by
  cases d <;> simp [withFields]

/-- Fields do not change the name of a definition. -/
@[simp] theorem name_withFields (d : Definition) (xs : List Field) :
    (d.withFields xs).name = d.name := by
  cases d <;> rfl

/-- Fields do not change the kind of a definition. -/
@[simp] theorem kind_withFields (d : Definition) (xs : List Field) :
    (d.withFields xs).kind = d.kind := by
  cases d <;> rfl

/-- Fields do not change the site of a definition. -/
@[simp] theorem site_withFields (d : Definition) (xs : List Field) (path : String) :
    (d.withFields xs).site path = d.site path := by
  simp [site]

end Definition

namespace Package

/-- The package after a run of steps, those that fail included. -/
def after (p : Package) (steps : List Step) : Package := steps.foldl (fun q s => (s.run q).1) p

/-- The names that a reservation takes: those before the first one that refers to a definition. -/
def reservable (p : Package) (names : List String) : List String :=
  names.takeWhile fun n => (p.lookup n).isNone

/-- The names that a step reserves. -/
def reservedByStep (p : Package) : Step → List String
  | .reserve names => p.reservable names
  | _ => []

/-- The names that a run of steps reserves. -/
def reservedBy (p : Package) : List Step → List String
  | [] => []
  | s :: rest => p.reservedByStep s ++ (s.run p).1.reservedBy rest

/-- Whether a definition stands in the file at a path. -/
def Holds (p : Package) (path : String) (d : Definition) : Prop :=
  ∃ f ∈ p.files, f.path = path ∧ d ∈ f.definitions

/-- A definition that stands in a file is found under its name. -/
theorem WellFormed.lookup_of_holds {p : Package} (h : p.WellFormed) {path : String} {d : Definition}
    (hd : p.Holds path d) : p.lookup d.name = some d := by
  obtain ⟨f, hf, -, hd⟩ := hd
  exact h.lookup_of_mem hf hd

/-- A definition that stands in a file has its site in the registry. -/
theorem WellFormed.entryOf?_of_holds {p : Package} (h : p.WellFormed) {path : String}
    {d : Definition} (hd : p.Holds path d) : p.entryOf? d.name = some (.defined (d.site path)) := by
  obtain ⟨f, hf, rfl, hd⟩ := hd
  exact h.entry_of_mem f hf d hd

/-- An inserted definition stands in its file. -/
theorem holds_insert_self {p : Package} {path : String} (hfile : (p.file? path).isSome)
    (d : Definition) :
    (p.insert path d).Holds path d := by
  obtain ⟨f, hf⟩ := Option.isSome_iff_exists.1 hfile
  have hins : (p.insert path d).file? path = some (f.add d) := by simp [file?_insert, hf]
  exact ⟨_, mem_of_file? hins, path_of_file? hins, (f.definitions_add d).mem_iff.2 (by simp)⟩

/-! ### One reservation -/

/-- A reserved name does not change what is found under names. -/
theorem lookup_withReserved {p : Package} {name : String} (hname : p.lookup name = none)
    (n : String) :
    (p.withEntry name .reserved).lookup n = p.lookup n := by
  by_cases hn : n = name
  · subst hn
    rw [hname]
    simp [lookup, entryOf?_withEntry]
  · have hat (site : Site) :
        (p.withEntry name .reserved).definitionAt? site = p.definitionAt? site := rfl
    simp [lookup, entryOf?_withEntry, hn, hat]

/-- A reservation takes the names before the first one that refers to a definition, and fails with
that one if there is one. -/
theorem WellFormed.reserve {p : Package} (h : p.WellFormed) (names : List String) :
    (p.reserve names).1.WellFormed ∧
    (p.reserve names).1.files = p.files ∧
    (∀ n, (p.reserve names).1.entryOf? n =
      if n ∈ p.reservable names then some .reserved else p.entryOf? n) ∧
    (p.reserve names).2 =
      match names.find? fun n => (p.lookup n).isSome with
      | none => .ok ()
      | some n => .error (.duplicateIdentifier n) := by
  induction names generalizing p with
  | nil => exact ⟨h, rfl, fun n => by simp [Package.reserve, reservable], rfl⟩
  | cons name rest ih =>
    have hfree : p.isFree name .reserved = (p.lookup name).isNone := by
      cases hl : p.lookup name with
      | none => rcases h.lookup_eq_none_iff.1 hl with he | he <;> simp [isFree, he]
      | some d =>
        obtain ⟨hmem, rfl⟩ := h.lookup_eq_some_iff.1 hl
        obtain ⟨f, hf, hd⟩ := WellFormed.mem_definitions.1 hmem
        simp [isFree, h.entry_of_mem f hf d hd]
    cases hl : p.lookup name with
    | some d =>
      have hstop : p.reserve (name :: rest) = (p, .error (.duplicateIdentifier name)) := by
        simp [Package.reserve, claim_eq, hfree, hl]
      simp [hstop, h, reservable, hl]
    | none =>
      have hgo : p.reserve (name :: rest) = (p.withEntry name .reserved).reserve rest := by
        simp [Package.reserve, claim_eq, hfree, hl]
      have hlook := lookup_withReserved hl
      obtain ⟨hwf, hfiles, hentry, hout⟩ := ih (h.withReserved hl)
      rw [hgo]
      refine ⟨hwf, hfiles, ?_, ?_⟩
      · intro n
        rw [hentry, entryOf?_withEntry]
        by_cases hn : n = name <;> simp [reservable, hlook, hl, hn]
      · rw [hout]
        simp [hlook, hl]

/-! ### One request -/

/-- Asking for a definition: one of the same kind and name in the file is answered as it is, a name
that is declared otherwise is refused, and an undeclared name gets the new definition. -/
theorem WellFormed.request {p : Package} (h : p.WellFormed) {s : Step} {path : String}
    {d : Definition} (hs : s.request? = some (path, d)) :
    (∃ e, p.Holds path e ∧ e.kind = d.kind ∧ e.name = d.name ∧ s.run p = (p, .ok ())) ∨
    ((∀ e, p.Holds path e → e.kind = d.kind → e.name ≠ d.name) ∧ p.isDeclared d.name = true ∧
      s.run p = (p.withFile path, .error (.duplicateIdentifier d.name))) ∨
    (p.isDeclared d.name = false ∧ s.run p = ((p.withFile path).insert path d, .ok ())) := by
  have hrun : s.run p = (p.withFile path).attempt (·.declare path d) := by
    cases s <;> simp only [Step.request?, Option.some.injEq, Prod.mk.injEq, reduceCtorEq] at hs <;>
      obtain ⟨rfl, rfl⟩ := hs <;> rfl
  have hfile := (file?_withFile p path path).trans (if_pos rfl)
  have hdeclare := declare_eq_of_grounded (h.withFile path).grounded hfile d
  have hdeclared : (p.withFile path).isDeclared d.name = p.isDeclared d.name := by
    simp [isDeclared]
  rw [hdeclared] at hdeclare
  cases hfound : ((p.file? path).getD (File.empty path)).definition? d.kind d.name with
  | some e =>
    obtain ⟨hmem, hkind, hname⟩ := File.mem_of_definition? hfound
    cases hf : p.file? path with
    | none => simp [hf] at hmem
    | some f =>
      rw [hf] at hmem
      refine .inl ⟨e, ⟨f, mem_of_file? hf, path_of_file? hf, hmem⟩, hkind, hname, ?_⟩
      rw [hrun, attempt, hdeclare, hfound, withFile_of_file? hf]
      rfl
  | none =>
    rw [hfound] at hdeclare
    cases hd : p.isDeclared d.name with
    | false =>
      refine .inr (.inr ⟨rfl, ?_⟩)
      rw [hrun, attempt, hdeclare, hd]
      rfl
    | true =>
      refine .inr (.inl ⟨?_, rfl, ?_⟩)
      · intro e he hkind hname
        obtain ⟨f, hf, rfl, hmem⟩ := he
        have hsome := File.isSome_definition?_of_mem hmem
        rw [file?_of_mem h.paths_nodup hf, Option.getD_some, ← hkind, ← hname] at hfound
        rw [hfound] at hsome
        cases hsome
      · rw [hrun, attempt, hdeclare, hd]
        rfl

/-! ### What goes on from step to step -/

/-- The second package is well formed and goes on from the first one: declared names keep their
entries, definitions stay but for fields that are added to them, and some names are reserved. -/
structure Continues (p q : Package) (fields : Site → List Field) (reserved : List String) :
    Prop where
  /-- The registry agrees with the files. -/
  wellFormed : q.WellFormed
  /-- Declared names keep their entries. -/
  entry : ∀ n e, p.entryOf? n = some e → q.entryOf? n = some e
  /-- Definitions stay, with their new fields. -/
  holds : ∀ path d, p.Holds path d → q.Holds path (d.withFields (fields (d.site path)))
  /-- The reserved names are the old ones and the new ones. -/
  reserved : ∀ n, q.entryOf? n = some .reserved ↔ p.entryOf? n = some .reserved ∨ n ∈ reserved

namespace Continues

variable {p q r : Package} {fields fields' : Site → List Field} {reserved reserved' : List String}

/-- A package continues itself. -/
theorem refl (h : p.WellFormed) : p.Continues p (fun _ => []) [] where
  wellFormed := h
  entry := fun _ _ he => he
  holds := fun path d hd => by simpa using hd
  reserved := by simp

/-- What continues a package is continued in turn. -/
theorem trans (h : p.Continues q fields reserved) (h' : q.Continues r fields' reserved') :
    p.Continues r (fun site => fields site ++ fields' site) (reserved ++ reserved') where
  wellFormed := h'.wellFormed
  entry := fun n e he => h'.entry n e (h.entry n e he)
  holds := fun path d hd => by
    have := h'.holds path _ (h.holds path d hd)
    rwa [Definition.site_withFields, ← Definition.withFields_append] at this
  reserved := fun n => by rw [h'.reserved, h.reserved, List.mem_append, or_assoc]

/-- A package with a new file continues it without the file. -/
theorem withFile (h : p.WellFormed) (path : String) :
    p.Continues (p.withFile path) (fun _ => []) [] where
  wellFormed := h.withFile path
  entry := fun n e he => by simpa using he
  holds := fun other d hd => by
    obtain ⟨f, hf, hpath, hd⟩ := hd
    refine ⟨f, ?_, hpath, by simpa using hd⟩
    unfold Package.withFile
    split
    · exact hf
    · exact List.mem_append_left _ hf
  reserved := by simp

/-- A package with a new definition continues it without the definition. -/
theorem insert (h : p.WellFormed) {path : String} (hfile : (p.file? path).isSome) {d : Definition}
    (hd : p.isDeclared d.name = false) : p.Continues (p.insert path d) (fun _ => []) [] where
  wellFormed := h.of_appends hfile (Appends.insert path hd)
  entry := fun n e he => by
    have hne : n ≠ d.name := by
      rintro rfl
      rw [isDeclared_of_entryOf? he] at hd
      cases hd
    rw [entryOf?_insert, if_neg hne, he]
  holds := fun other e he => by
    obtain ⟨f, hf, rfl, he⟩ := he
    refine ⟨_, List.mem_map_of_mem hf, ?_⟩
    rw [Definition.withFields_nil]
    split
    · exact ⟨f.path_add d, (f.definitions_add d).mem_iff.2 (List.mem_cons_of_mem _ he)⟩
    · exact ⟨rfl, he⟩
  reserved := fun n => by
    by_cases hn : n = d.name
    · simp [entryOf?_insert, hn, isDeclared_eq_false.1 hd]
    · simp [entryOf?_insert, hn]

/-- A field goes to the struct that it is meant for, and no other definition changes. -/
theorem addField (h : p.WellFormed) (path name : String) (field : Field) :
    p.Continues (p.addField path name field) (Step.addField path name field).fieldsFor [] where
  wellFormed := h.revise path (fun _ => rfl) (fun f => f.definitions_updateStruct name _)
    (Definition.name_onStruct name fun _ => rfl) (Definition.kind_onStruct name _)
  entry := fun _ _ he => he
  holds := fun other d hd => by
    obtain ⟨f, hf, rfl, hd⟩ := hd
    refine ⟨_, List.mem_map_of_mem hf, ?_⟩
    by_cases hpath : f.path = path
    · rw [if_pos hpath, File.definitions_updateStruct]
      refine ⟨rfl, List.mem_map.2 ⟨d, hd, ?_⟩⟩
      cases d with
      | struct s =>
        by_cases hs : s.name = name <;>
          simp [Definition.onStruct, Definition.site, Step.fieldsFor, Definition.withFields, hpath,
            hs]
      | typeDef _ => rfl
      | func _ => rfl
    · rw [if_neg hpath]
      have hsite : d.site f.path ≠ ⟨path, .struct, name⟩ := fun hs => hpath (congrArg Site.file hs)
      exact ⟨rfl, by simpa [Step.fieldsFor, hsite] using hd⟩
  reserved := by simp [Package.addField]

/-- A package with reserved names continues it without them. -/
theorem reserve (h : p.WellFormed) (names : List String) :
    p.Continues (p.reserve names).1 (fun _ => []) (p.reservable names) := by
  obtain ⟨hwf, hfiles, hentry, -⟩ := h.reserve names
  have hnone (n : String) (hn : n ∈ p.reservable names) : p.lookup n = none := by
    simpa using List.mem_takeWhile_imp hn
  refine ⟨hwf, ?_, ?_, ?_⟩
  · intro n e he
    rw [hentry]
    split
    · rename_i hn
      rcases h.lookup_eq_none_iff.1 (hnone n hn) with h' | h' <;> rw [h'] at he
      · cases he
      · exact he
    · exact he
  · intro path d hd
    simpa [Holds, hfiles] using hd
  · intro n
    rw [hentry]
    split <;> simp [*]

/-- What goes on over one step. -/
theorem step (h : p.WellFormed) (s : Step) :
    p.Continues (s.run p).1 s.fieldsFor (p.reservedByStep s) := by
  have hrequest {path : String} {d : Definition} (hs : s.request? = some (path, d)) :
      p.Continues (s.run p).1 (fun _ => []) [] := by
    obtain ⟨e, -, -, -, hrun⟩ | ⟨-, -, hrun⟩ | ⟨hd, hrun⟩ := h.request hs <;> rw [hrun]
    · exact refl h
    · exact withFile h path
    · have hfile : ((p.withFile path).file? path).isSome := by simp [file?_withFile]
      exact (withFile h path).trans
        (insert (h.withFile path) hfile (by simpa [isDeclared] using hd))
  cases s with
  | file path => exact withFile h path
  | typeDef path name type => exact hrequest rfl
  | struct path name => exact hrequest rfl
  | func path name => exact hrequest rfl
  | addField path name field => exact addField h path name field
  | reserve names => exact reserve h names

/-- What goes on over a run of steps. -/
theorem run (h : p.WellFormed) (steps : List Step) :
    p.Continues (p.after steps) (fun site => steps.flatMap (·.fieldsFor site))
      (p.reservedBy steps) := by
  induction steps generalizing p with
  | nil => exact refl h
  | cons s rest ih =>
    have hs := step h s
    exact hs.trans (ih hs.wellFormed)

end Continues

/-! ### The registry after a run -/

/-- The registry knows the reserved names and the names of the definitions, each of them once, and
refers from a name to the definition that has it. -/
structure Registers (p : Package) (reserved : List String) : Prop where
  /-- What is declared is reserved or the name of a definition. -/
  isDeclared_iff : ∀ n, p.isDeclared n ↔ n ∈ reserved ∨ n ∈ p.names
  /-- No name is given twice, in one file or in two. -/
  names_nodup : p.names.Nodup
  /-- No definition has a reserved name. -/
  reserved_notMem : ∀ n ∈ reserved, n ∉ p.names
  /-- A name refers to the definition that has it. -/
  lookup_iff : ∀ n d, p.lookup n = some d ↔ d ∈ p.definitions ∧ d.name = n
  /-- A reserved name and an undeclared one refer to nothing. -/
  lookup_eq_none : ∀ n, n ∈ reserved ∨ p.isDeclared n = false → p.lookup n = none

/-- What is declared in a package stays over a run of steps, and asking for it again changes
nothing. -/
structure KeepsDeclared (p : Package) (steps : List Step) : Prop where
  /-- A declared name keeps its entry. -/
  entry : ∀ n e, p.entryOf? n = some e → (p.after steps).entryOf? n = some e
  /-- A definition stays, with the fields that have been added to it. -/
  lookup : ∀ path d, p.Holds path d → (p.after steps).lookup d.name =
    some (d.withFields (steps.flatMap (·.fieldsFor (d.site path))))
  /-- A request for a definition of the file by its kind and name is answered with it as it is. -/
  again : ∀ path d, p.Holds path d → ∀ (s : Step) (e : Definition), s.request? = some (path, e) →
    e.kind = d.kind → e.name = d.name → s.run (p.after steps) = (p.after steps, .ok ())

/-- How a request for a definition is answered. -/
structure Answers (p : Package) (s : Step) (path : String) (d : Definition) : Prop where
  /-- It succeeds if the name is not declared, or is that of such a definition in the file. -/
  ok_iff : (s.run p).2 = .ok () ↔
    p.isDeclared d.name = false ∨ ∃ e, p.Holds path e ∧ e.kind = d.kind ∧ e.name = d.name
  /-- An undeclared name gets the new definition. -/
  lookup : p.isDeclared d.name = false → (s.run p).1.lookup d.name = some d
  /-- A request that fails reports the name and leaves all definitions and the registry. -/
  error : ∀ e, (s.run p).2 = .error e → e = .duplicateIdentifier d.name ∧
    s.run p = (p.withFile path, .error e) ∧ (s.run p).1.definitions = p.definitions ∧
    (s.run p).1.registry = p.registry

/-- A reservation takes the names before the first one that refers to a definition, touches no file
and no other name, and fails with that one if there is one. -/
structure Reserves (p : Package) (names : List String) : Prop where
  /-- The files stay. -/
  files : (p.reserve names).1.files = p.files
  /-- The names before the first conflict are reserved, and all others are what they were. -/
  entry : ∀ n, (p.reserve names).1.entryOf? n =
    if n ∈ p.reservable names then some .reserved else p.entryOf? n
  /-- The first name that refers to a definition is reported. -/
  outcome : (p.reserve names).2 =
    match names.find? fun n => (p.lookup n).isSome with
    | none => .ok ()
    | some n => .error (.duplicateIdentifier n)

namespace WellFormed

variable {p : Package}

/-- The registry has the definitions and the reserved names, and nothing else. -/
theorem registers (h : p.WellFormed) {reserved : List String}
    (hreserved : ∀ n, p.entryOf? n = some .reserved ↔ n ∈ reserved) : p.Registers reserved where
  isDeclared_iff := fun n => by rw [h.isDeclared_iff, hreserved]
  names_nodup := h.nodup_names
  reserved_notMem := fun n hn => h.notMem_names_of_reserved ((hreserved n).2 hn)
  lookup_iff := fun _ _ => h.lookup_eq_some_iff
  lookup_eq_none := fun n hn => by
    rw [h.lookup_eq_none_iff, hreserved, or_comm, ← isDeclared_eq_false]
    exact hn

/-- What is declared stays declared over any run of steps. -/
theorem keepsDeclared (h : p.WellFormed) (steps : List Step) : p.KeepsDeclared steps := by
  have hrun := Continues.run h steps
  refine ⟨hrun.entry, ?_, ?_⟩
  · intro path d hd
    simpa using hrun.wellFormed.lookup_of_holds (hrun.holds path d hd)
  · intro path d hd s e hs hkind hname
    have hstay := hrun.holds path d hd
    obtain ⟨_, -, -, -, hok⟩ | ⟨hno, -, -⟩ | ⟨hnew, -⟩ := hrun.wellFormed.request hs
    · exact hok
    · exact absurd (by simp [hname]) (hno _ hstay (by simp [hkind]))
    · have hold := hrun.wellFormed.entryOf?_of_holds hstay
      rw [hname, isDeclared_eq_false] at hnew
      rw [Definition.name_withFields, hnew] at hold
      cases hold

/-- A request for a definition is answered as the registry says. -/
theorem answers (h : p.WellFormed) {s : Step} {path : String} {d : Definition}
    (hs : s.request? = some (path, d)) : p.Answers s path d := by
  obtain ⟨e, he, hkind, hname, hrun⟩ | ⟨hno, hdecl, hrun⟩ | ⟨hnew, hrun⟩ := h.request hs
  · have hdecl : p.isDeclared d.name = true :=
      hname ▸ isDeclared_of_entryOf? (h.entryOf?_of_holds he)
    refine ⟨?_, ?_, ?_⟩
    · simpa [hrun] using .inr ⟨e, he, hkind, hname⟩
    · intro hnew
      simp [hdecl] at hnew
    · intro e herr
      simp [hrun] at herr
  · refine ⟨?_, ?_, ?_⟩
    · simpa [hrun, hdecl] using hno
    · intro hnew
      simp [hdecl] at hnew
    · intro e herr
      rw [hrun] at herr ⊢
      cases herr
      exact ⟨rfl, rfl, by simp, by simp⟩
  · have hwf := (Continues.step h s).wellFormed
    refine ⟨by simp [hrun, hnew], ?_, ?_⟩
    · intro _
      rw [hrun] at hwf ⊢
      exact hwf.lookup_of_holds (holds_insert_self (by simp [file?_withFile]) d)
    · intro e herr
      simp [hrun] at herr

end WellFormed

/-- What runs of steps reach is grounded. -/
theorem grounded_after (steps : List Step) : (empty.after steps).Grounded :=
  (Continues.run .empty steps).wellFormed.grounded

end Package

/-- Over every run of steps from the empty package, the registry agrees with the files, what is
declared stays, requests are answered or refused without a trace, and reservations stop at the first
conflict. -/
theorem registry_after_run (steps : List Step) :
    (Package.empty.after steps).Registers (Package.empty.reservedBy steps) ∧
    (∀ more, (Package.empty.after steps).KeepsDeclared more) ∧
    (∀ (s : Step) path d, s.request? = some (path, d) →
      (Package.empty.after steps).Answers s path d) ∧
    ∀ names, (Package.empty.after steps).Reserves names := by
  have hrun := Package.Continues.run .empty steps
  have hwf := hrun.wellFormed
  have hreserved (n : String) : (Package.empty.after steps).entryOf? n = some .reserved ↔
      n ∈ Package.empty.reservedBy steps := by
    rw [hrun.reserved]
    simp [Package.empty, Package.entryOf?]
  refine ⟨hwf.registers hreserved, hwf.keepsDeclared, fun s path d => hwf.answers, ?_⟩
  intro names
  obtain ⟨-, hfiles, hentry, hout⟩ := hwf.reserve names
  exact ⟨hfiles, hentry, hout⟩

end RamlClient.Go
