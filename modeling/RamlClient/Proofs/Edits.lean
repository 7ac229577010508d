import RamlClient.Go.Render
import RamlClient.Proofs.Registry
import RamlClient.Proofs.TypeOrder
/-!
# Steps on a file of a package

A file is built step by step: definitions are asked for, and what is there is revised. Whether a
step is refused depends on the file and on what the registry knows of one name, and a step changes
no more than these. The imports of a file are a set, and the steps that add them can be made at any
time.
-/

namespace RamlClient.Go

/-- A step of building a file. -/
inductive Edit where
  /-- Asks for a type definition. -/
  | typeDef (name type : String)
  /-- Asks for a struct. -/
  | struct (name : String)
  /-- Asks for a function. -/
  | func (name : String)
  /-- Adds a field to a struct. -/
  | addField (name : String) (field : Field)
  /-- Gives a function its receiver. -/
  | setReceiver (name receiver : String)
  /-- Adds an argument to a function. -/
  | addArg (name : String) (arg : Arg)
  /-- Adds arguments to a function. -/
  | addArgs (name : String) (args : List Arg)
  /-- Adds the type of a result to a function. -/
  | addReturn (name type : String)
  /-- Adds a piece to the body of a function. -/
  | write (name text : String)
  /-- Adds imports. -/
  | addImports (paths : List String)
deriving DecidableEq

/-! ### One step -/

namespace Edit

/-- The package after a step on the file at a path, and the outcome of the step. -/
def run (p : Package) (path : String) : Edit → Package × Except Error Unit
  | .typeDef name type => p.attempt (·.declareTypeDef path name type)
  | .struct name => p.attempt (·.declareStruct path name)
  | .func name => p.attempt (·.declareFunc path name)
  | .addField name field => (p.addField path name field, .ok ())
  | .setReceiver name receiver =>
    (p.updateFunc path name fun g => { g with receiver := some receiver }, .ok ())
  | .addArg name arg => (p.updateFunc path name fun g => { g with args := g.args ++ [arg] }, .ok ())
  | .addArgs name args =>
    (p.updateFunc path name fun g => { g with args := g.args ++ args }, .ok ())
  | .addReturn name type =>
    (p.updateFunc path name fun g => { g with results := g.results ++ [type] }, .ok ())
  | .write name text =>
    (p.updateFunc path name fun g => { g with body := g.body ++ [text] }, .ok ())
  | .addImports paths => (p.updateFile path (·.addImports paths), .ok ())

/-- The definition that a step asks for, as it is if it is new. -/
def request? : Edit → Option Definition
  | .typeDef name type => some (.typeDef ⟨name, type⟩)
  | .struct name => some (.struct ⟨name, []⟩)
  | .func name => some (.func ⟨name, none, [], [], []⟩)
  | _ => none

/-- What a step that asks for nothing does to its file. -/
def revise : Edit → File → File
  | .addField name field, f => f.updateStruct name fun s => { s with fields := s.fields ++ [field] }
  | .setReceiver name receiver, f => f.updateFunc name fun g => { g with receiver := some receiver }
  | .addArg name arg, f => f.updateFunc name fun g => { g with args := g.args ++ [arg] }
  | .addArgs name args, f => f.updateFunc name fun g => { g with args := g.args ++ args }
  | .addReturn name type, f => f.updateFunc name fun g => { g with results := g.results ++ [type] }
  | .write name text, f => f.updateFunc name fun g => { g with body := g.body ++ [text] }
  | .addImports paths, f => f.addImports paths
  | _, f => f

/-- The imports that a step adds. -/
def imports : Edit → List String
  | .addImports paths => paths
  | _ => []

/-- Whether a step does more than adding imports. -/
def isWork : Edit → Bool
  | .addImports _ => false
  | _ => true

/-- A revision keeps the path of its file. -/
@[simp] theorem path_revise (e : Edit) (f : File) : (e.revise f).path = f.path := by
  cases e <;> rfl

/-- A step works on what is there: its revision and imports can be made in either order. -/
theorem revise_addImports (e : Edit) (f : File) (xs : List String) :
    e.revise (f.addImports xs) = (e.revise f).addImports xs := by
  cases e with
  | addImports paths =>
    simp only [revise, ← File.addImports_append]
    exact Client.addImports_perm f List.perm_append_comm
  | _ => rfl

end Edit

/-- What a step comes to. -/
inductive Effect where
  /-- Nothing: the definition is there. -/
  | nothing
  /-- A new definition. -/
  | insertion (d : Definition)
  /-- A refusal of a name. -/
  | refusal (name : String)
  /-- A revision of the file. -/
  | revision (e : Edit)

namespace Effect

/-- The names that are claimed. -/
def claims : Effect → List String
  | .insertion d => [d.name]
  | _ => []

/-- The outcome of the step. -/
def outcome : Effect → Except Error Unit
  | .refusal name => .error (.duplicateIdentifier name)
  | _ => .ok ()

end Effect

namespace Package

/-- The package with an effect on the file at a path. -/
def withEffect (p : Package) (path : String) : Effect → Package
  | .insertion d => p.insert path d
  | .revision e => p.updateFile path e.revise
  | _ => p

variable {p q : Package} {path : String}

/-- What is found at a path after an effect on the file at some path. -/
theorem file?_withEffect (p : Package) (path : String) (x : Effect) (other : String) :
    (p.withEffect path x).file? other =
      if other = path then
        (p.file? other).map fun f =>
          match x with
          | .insertion d => f.add d
          | .revision e => e.revise f
          | _ => f
      else p.file? other := by
  cases x with
  | insertion d => exact file?_insert p path d other
  | revision e => exact file?_updateFile p path e.path_revise other
  | _ => simp [withEffect]

/-- An effect on one file leaves the others alone. -/
theorem file?_withEffect_of_ne (x : Effect) {other : String} (h : other ≠ path) :
    (p.withEffect path x).file? other = p.file? other := by
  rw [file?_withEffect, if_neg h]

/-- An effect on a file depends on that file only. -/
theorem file?_withEffect_congr (h : q.file? path = p.file? path) (x : Effect) :
    (q.withEffect path x).file? path = (p.withEffect path x).file? path := by
  rw [file?_withEffect, file?_withEffect, h]

/-- An effect neither adds nor removes a file. -/
theorem isSome_file?_withEffect (p : Package) (path : String) (x : Effect) (other : String) :
    ((p.withEffect path x).file? other).isSome = (p.file? other).isSome := by
  rw [file?_withEffect]
  split <;> simp

/-- An effect keeps what the registry has under a name that it does not claim. -/
theorem entryOf?_withEffect_of_notMem {x : Effect} {n : String} (h : n ∉ x.claims) :
    (p.withEffect path x).entryOf? n = p.entryOf? n := by
  cases x with
  | insertion d => rw [withEffect, entryOf?_insert, if_neg (by simpa [Effect.claims] using h)]
  | _ => rfl

/-- A name that is claimed gets its entry from the claim alone. -/
theorem entryOf?_withEffect_congr {x : Effect} {n : String} (h : n ∈ x.claims) :
    (q.withEffect path x).entryOf? n = (p.withEffect path x).entryOf? n := by
  cases x with
  | insertion d =>
    have hn : n = d.name := by simpa [Effect.claims] using h
    rw [withEffect, withEffect, entryOf?_insert, entryOf?_insert, if_pos hn, if_pos hn]
  | _ => cases h

end Package

namespace Edit

/-- What a step on the file at a path comes to. -/
def effect (p : Package) (path : String) (e : Edit) : Effect :=
  match e.request? with
  | none => .revision e
  | some d =>
    if (p.file? path).any fun f => (f.definition? d.kind d.name).isSome then .nothing
    else if p.isFree d.name (.defined (d.site path)) then .insertion d
    else .refusal d.name

variable {p q : Package} {path : String}

/-- A declaration in a file that is there does what its effect says. -/
theorem attempt_declare {f : File} (hf : p.file? path = some f) {e : Edit} {d : Definition}
    (he : e.request? = some d) :
    p.attempt (·.declare path d) =
      (p.withEffect path (e.effect p path), (e.effect p path).outcome) := by
  have hdeclare : p.declare path d =
      if (f.definition? d.kind d.name).isSome then .ok p
      else if p.isFree d.name (.defined (d.site path)) then .ok (p.insert path d)
      else .error (.duplicateIdentifier d.name) := by
    simp only [Package.declare, Package.withFile_of_file? hf, hf, Option.any_some, Package.claim_eq]
    split
    · rfl
    · split <;> rfl
  simp only [effect, he, hf, Option.any_some, Package.attempt, hdeclare]
  by_cases hhas : (f.definition? d.kind d.name).isSome
  · simp only [if_pos hhas]
    rfl
  · simp only [if_neg hhas]
    by_cases hfree : p.isFree d.name (.defined (d.site path))
    · simp only [if_pos hfree]
      rfl
    · simp only [if_neg hfree]
      rfl

/-- A step on a file that is there does what its effect says. -/
theorem run_eq {f : File} (hf : p.file? path = some f) (e : Edit) :
    e.run p path = (p.withEffect path (e.effect p path), (e.effect p path).outcome) := by
  cases e with
  | typeDef name type => exact attempt_declare hf rfl
  | struct name => exact attempt_declare hf rfl
  | func name => exact attempt_declare hf rfl
  | _ => rfl

/-- The effect of a step depends on its file, and on the entry of a name that the file does not
define. -/
theorem effect_congr {e : Edit} (hfile : q.file? path = p.file? path)
    (hfree : ∀ d, e.request? = some d →
      (p.file? path).any (fun f => (f.definition? d.kind d.name).isSome) = false →
      q.isFree d.name (.defined (d.site path)) = p.isFree d.name (.defined (d.site path))) :
    e.effect q path = e.effect p path := by
  unfold effect
  cases he : e.request? with
  | none => rfl
  | some d =>
    simp only [hfile]
    cases hany : (p.file? path).any fun f => (f.definition? d.kind d.name).isSome with
    | true => rfl
    | false => rw [hfree d he hany]

/-- A name that is claimed was free for a definition in the file. -/
theorem isFree_of_mem_claims {e : Edit} {n : String} (h : n ∈ (e.effect p path).claims) :
    ∃ d : Definition, d.name = n ∧ p.isFree n (.defined (d.site path)) = true ∧
      (p.withEffect path (e.effect p path)).entryOf? n = some (.defined (d.site path)) := by
  unfold effect at h ⊢
  cases he : e.request? with
  | none =>
    rw [he] at h
    cases h
  | some d =>
    simp only [he] at h ⊢
    split at h
    · cases h
    · split at h
      · rename_i hany hfree
        have hn : n = d.name := by simpa [Effect.claims] using h
        rw [if_neg hany, if_pos hfree, hn]
        exact ⟨d, rfl, hfree, by rw [Package.withEffect, Package.entryOf?_insert, if_pos rfl]⟩
      · cases h

/-- A free name that the file does not define is claimed by the step that asks for it. -/
theorem mem_claims_of_isFree {e : Edit} {d : Definition} (he : e.request? = some d)
    (hany : (p.file? path).any (fun f => (f.definition? d.kind d.name).isSome) = false)
    (hfree : p.isFree d.name (.defined (d.site path)) = true) :
    d.name ∈ (e.effect p path).claims := by
  simp [effect, he, hany, hfree, Effect.claims]

end Edit

/-! ### Rows of steps -/

namespace Package

/-- The package after steps, each on the file at a path; one that is refused is passed over. -/
def edited (p : Package) : List (String × Edit) → Package
  | [] => p
  | (path, e) :: rest => (e.run p path).1.edited rest

/-- The outcomes of steps, each with the path of its file. -/
def outcomes (p : Package) : List (String × Edit) → List (String × Except Error Unit)
  | [] => []
  | (path, e) :: rest => (path, (e.run p path).2) :: (e.run p path).1.outcomes rest

/-- The names that steps claim: those that are asked for where they are not defined, and not
refused. -/
def claimed (p : Package) : List (String × Edit) → List String
  | [] => []
  | (path, e) :: rest => (e.effect p path).claims ++ (e.run p path).1.claimed rest

end Package

/-- Steps on one file. -/
def on (path : String) (es : List Edit) : List (String × Edit) := es.map fun e => (path, e)

/-! ### Imports -/

/-- An import is not inserted twice. -/
theorem insertImport_self (x : String) (xs : List String) :
    insertImport x (insertImport x xs) = insertImport x xs := by
  induction xs with
  | nil => simp [insertImport]
  | cons c r ih =>
    obtain hlt | rfl | hgt := lt_trichotomy x c
    · simp [insertImport, hlt]
    · simp [insertImport]
    · simp [insertImport, hgt.not_gt, hgt.ne', ih]

namespace File

/-- An import that has been added is not added again. -/
theorem addImports_cons_of_mem (f : File) {x : String} {xs : List String} (h : x ∈ xs) :
    f.addImports (x :: xs) = f.addImports xs := by
  have hfront : xs.Perm (x :: xs.erase x) := List.perm_cons_erase h
  rw [Client.addImports_perm f hfront, Client.addImports_perm f (hfront.cons x)]
  simp only [addImports, List.foldl_cons, insertImport_self]

/-- Imports that are among the added ones need not be added before. -/
theorem addImports_append_of_subset (f : File) {xs ys : List String} (h : ys ⊆ xs) :
    f.addImports (ys ++ xs) = f.addImports xs := by
  induction ys with
  | nil => rfl
  | cons y r ih =>
    obtain ⟨hy, hr⟩ := List.cons_subset.1 h
    rw [List.cons_append, addImports_cons_of_mem f (List.mem_append_right r hy), ih hr]

/-- The imports of a file are a set. -/
theorem addImports_congr (f : File) {xs ys : List String} (h : ∀ x, x ∈ xs ↔ x ∈ ys) :
    f.addImports xs = f.addImports ys := by
  rw [← addImports_append_of_subset f fun y hy => (h y).2 hy,
    ← addImports_append_of_subset f fun x hx => (h x).1 hx]
  exact Client.addImports_perm f List.perm_append_comm

/-- Imports do not change what is found among the definitions. -/
theorem definition?_addImports (f : File) (xs : List String) (kind : DefinitionKind)
    (name : String) :
    (f.addImports xs).definition? kind name = f.definition? kind name := by
  cases kind <;> rfl

end File

namespace Package

/-- The package with imports in the file at a path. -/
def withImports (p : Package) (path : String) (xs : List String) : Package :=
  p.updateFile path (·.addImports xs)

variable {p : Package} {path : String}

/-- The file to which imports are added. -/
theorem file?_withImports (p : Package) (path : String) (xs : List String) :
    (p.withImports path xs).file? path = (p.file? path).map (·.addImports xs) := by
  rw [withImports, file?_updateFile p path (by exact fun _ => rfl), if_pos rfl]

/-- A file is still there when imports are added to it. -/
theorem isSome_file?_withImports (xs : List String) (h : (p.file? path).isSome) :
    ((p.withImports path xs).file? path).isSome := by
  rwa [file?_withImports, Option.isSome_map]

/-- Changes of a file that do not depend on each other can be made in either order. -/
theorem updateFile_comm (p : Package) (path : String) {change change' : File → File}
    (hpath : ∀ f, (change f).path = f.path) (hpath' : ∀ f, (change' f).path = f.path)
    (h : ∀ f, change (change' f) = change' (change f)) :
    (p.updateFile path change').updateFile path change =
      (p.updateFile path change).updateFile path change' := by
  simp only [updateFile, List.map_map]
  congr 1
  apply List.map_congr_left
  intro f _
  by_cases hf : f.path = path <;> simp [hf, hpath, hpath', h]

/-- Imports can be added before or after an effect on the file. -/
theorem withEffect_withImports (p : Package) (path : String) (xs : List String) (x : Effect) :
    (p.withImports path xs).withEffect path x = (p.withEffect path x).withImports path xs := by
  cases x with
  | insertion d =>
    have hadd (f : File) : (f.addImports xs).add d = (f.add d).addImports xs := by cases d <;> rfl
    exact updateFile_comm (p.withEntry d.name (.defined (d.site path))) path (fun f => f.path_add d)
      (fun _ => rfl) hadd
  | revision e =>
    exact updateFile_comm p path e.path_revise (fun _ => rfl) fun f => e.revise_addImports f xs
  | _ => rfl

/-- Imports can be added in two portions to the file of a package. -/
theorem withImports_append (p : Package) (path : String) (xs ys : List String) :
    (p.withImports path xs).withImports path ys = p.withImports path (xs ++ ys) := by
  simp only [withImports, updateFile, List.map_map]
  congr 1
  apply List.map_congr_left
  intro f _
  by_cases hf : f.path = path
  · simp only [Function.comp_apply, if_pos hf, File.addImports_append]
    exact if_pos hf
  · simp [hf]

/-- The added imports count as a set. -/
theorem withImports_congr (p : Package) (path : String) {xs ys : List String} (h : ∀ x, x ∈ xs ↔
      x ∈ ys) :
    p.withImports path xs = p.withImports path ys := by
  simp only [withImports, File.addImports_congr _ h]

/-- Adding no imports changes nothing. -/
@[simp] theorem withImports_nil (p : Package) (path : String) : p.withImports path [] = p := by
  simp [withImports, updateFile, File.addImports]

end Package

namespace Edit

variable {p : Package} {path : String}

/-- The effect of a step does not depend on the imports of its file. -/
theorem effect_withImports (e : Edit) (p : Package) (path : String) (xs : List String) :
    e.effect (p.withImports path xs) path = e.effect p path := by
  unfold effect
  simp only [Package.file?_withImports, Option.any_map, File.definition?_addImports]
  rfl

/-- Imports can be added before or after a step on the file. -/
theorem run_withImports (e : Edit) (xs : List String) (h : (p.file? path).isSome) :
    (e.run (p.withImports path xs) path).1 = (e.run p path).1.withImports path xs := by
  obtain ⟨f, hf⟩ := Option.isSome_iff_exists.1 h
  obtain ⟨g, hg⟩ := Option.isSome_iff_exists.1 (Package.isSome_file?_withImports xs h)
  rw [run_eq hf, run_eq hg, effect_withImports, Package.withEffect_withImports]

/-- A file is still there after a step on it. -/
theorem isSome_file?_run (e : Edit) (h : (p.file? path).isSome) :
    ((e.run p path).1.file? path).isSome := by
  obtain ⟨f, hf⟩ := Option.isSome_iff_exists.1 h
  rwa [run_eq hf, Package.isSome_file?_withEffect]

/-- A step that is no work adds its imports and claims nothing. -/
theorem run_of_not_isWork {e : Edit} (h : e.isWork = false) (p : Package) (path : String) :
    (e.run p path).1 = p.withImports path e.imports ∧ (e.effect p path).claims = [] := by
  cases e with
  | addImports paths => exact ⟨rfl, rfl⟩
  | _ => cases h

/-- A step that does more than adding imports adds none. -/
theorem imports_of_isWork {e : Edit} (h : e.isWork = true) : e.imports = [] := by
  cases e with
  | addImports paths => cases h
  | _ => rfl

end Edit

namespace Package

variable {path : String}

/-- Imports that are added first are there in the end, and nothing else changes. -/
theorem edited_withImports (es : List Edit) {p : Package} (xs : List String)
    (h : (p.file? path).isSome) :
    (p.withImports path xs).edited (on path es) = (p.edited (on path es)).withImports path xs ∧
    (p.withImports path xs).claimed (on path es) = p.claimed (on path es) := by
  induction es generalizing p with
  | nil => exact ⟨rfl, rfl⟩
  | cons e rest ih =>
    obtain ⟨hedited, hclaimed⟩ := ih (e.isSome_file?_run h)
    simp only [on, List.map_cons, edited, claimed, e.run_withImports xs h, e.effect_withImports]
    exact ⟨hedited, congrArg _ hclaimed⟩

/-- Steps on a file that is there are their work, and then the imports of all of them. -/
theorem edited_eq (es : List Edit) {p : Package} (h : (p.file? path).isSome) :
    p.edited (on path es) =
      (p.edited (on path (es.filter Edit.isWork))).withImports path (es.flatMap Edit.imports) ∧
    p.claimed (on path es) = p.claimed (on path (es.filter Edit.isWork)) := by
  induction es generalizing p with
  | nil => exact ⟨(withImports_nil p path).symm, rfl⟩
  | cons e rest ih =>
    obtain ⟨hedited, hclaimed⟩ := ih (e.isSome_file?_run h)
    have hcons : p.edited (on path (e :: rest)) = (e.run p path).1.edited (on path rest) ∧
        p.claimed (on path (e :: rest)) =
          (e.effect p path).claims ++ (e.run p path).1.claimed (on path rest) := ⟨rfl, rfl⟩
    rw [hcons.1, hcons.2, hedited, hclaimed, List.flatMap_cons]
    cases hwork : e.isWork with
    | true =>
      rw [List.filter_cons_of_pos hwork, Edit.imports_of_isWork hwork]
      exact ⟨rfl, rfl⟩
    | false =>
      obtain ⟨hrun, hclaims⟩ := Edit.run_of_not_isWork hwork p path
      obtain ⟨hlater, hclaimed'⟩ := edited_withImports (rest.filter Edit.isWork) e.imports h
      rw [List.filter_cons_of_neg (by simp [hwork]), hrun, hclaims, hlater, hclaimed',
        withImports_append]
      exact ⟨rfl, rfl⟩

end Package

/-- Two rows of steps do the same work in the same order, and add the same imports, in any order and
as often as they like. -/
structure SameUpToImports (es es' : List Edit) : Prop where
  /-- The work. -/
  work : es.filter Edit.isWork = es'.filter Edit.isWork
  /-- The imports. -/
  imports : ∀ x, x ∈ es.flatMap Edit.imports ↔ x ∈ es'.flatMap Edit.imports

/-- Steps that are the same but for imports give the same package and claim the same names. -/
theorem SameUpToImports.edited {es es' : List Edit} (h : SameUpToImports es es') {p : Package}
    {path : String} (hpath : (p.file? path).isSome) :
    p.edited (on path es) = p.edited (on path es') ∧
      p.claimed (on path es) = p.claimed (on path es') := by
  obtain ⟨hedited, hclaimed⟩ := Package.edited_eq es hpath
  obtain ⟨hedited', hclaimed'⟩ := Package.edited_eq es' hpath
  rw [hedited, hclaimed, hedited', hclaimed', h.work, Package.withImports_congr _ _ h.imports]
  exact ⟨rfl, rfl⟩

end RamlClient.Go
